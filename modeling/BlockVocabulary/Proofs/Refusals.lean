import BlockVocabulary.LayoutPass
import BlockVocabulary.Proofs.UnknownFields

/-!
Fields that are refused.

Whether the pass refuses a field is a matter of the field, its position and the policy, and not of
what was read before. A field that is refused changes nothing, so a pass that goes on after it ends
as it would have without the field.
-/

namespace BlockVocabulary

/-- Why a field at a position is refused. -/
def Field.refusal? (policy : UnknownFieldPolicy) (index : ℕ) : Field → Option LayoutError
  | .connection c =>
    if c.type?.isSome then none else some (.unsupportedType (c.tag.getD "") c.name (some index))
  | .unrecognized _ => if policy = .failFast then some (.unknownField index) else none
  | _ => none

/-- Why the first of some fields that is refused is. -/
def firstRefusal? (policy : UnknownFieldPolicy) (fields : List (Field × ℕ)) : Option LayoutError :=
  fields.findSome? fun (f, index) => f.refusal? policy index

lemma firstRefusal?_cons (policy : UnknownFieldPolicy) (f : Field) (index : ℕ)
    (fields : List (Field × ℕ)) :
    firstRefusal? policy ((f, index) :: fields) =
      (f.refusal? policy index).or (firstRefusal? policy fields) := by
  rw [firstRefusal?, firstRefusal?, List.findSome?_cons]
  rcases hf : f.refusal? policy index with _ | e <;> simp [hf]

namespace LayoutState

/-- The state after a field that is not refused. -/
def accept (s : LayoutState) (index : ℕ) : Field → LayoutState
  | .text content => s.text content
  | .widget name w => s.widget name w
  | .connection c => c.type?.elim s (s.connection c)
  | .unrecognized _ => { s with skipped := s.skipped ++ [index] }

/-- The state after fields none of which is refused. -/
def acceptAll (s : LayoutState) (fields : List (Field × ℕ)) : LayoutState :=
  fields.foldl (fun s (f, index) => s.accept index f) s

lemma acceptAll_cons (s : LayoutState) (f : Field) (index : ℕ) (fields : List (Field × ℕ)) :
    s.acceptAll ((f, index) :: fields) = (s.accept index f).acceptAll fields := rfl

/-- A field is refused, or it is accepted. -/
lemma feed_eq (policy : UnknownFieldPolicy) (s : LayoutState) (index : ℕ) (f : Field) :
    s.feed policy index f =
      (f.refusal? policy index).elim (.ok (s.accept index f)) Except.error := by
  cases f with
  | text content => rfl
  | widget name w => rfl
  | connection c =>
    rcases ht : c.type? with _ | t <;>
      simp [feed, Field.refusal?, accept, Connection.resolve, ht, bind, Except.bind, pure,
        Except.pure]
  | unrecognized v => cases policy <;> rfl

lemma feedAll_eq (policy : UnknownFieldPolicy) (s : LayoutState) (index : ℕ) (fs : List Field) :
    s.feedAll policy index fs =
      (firstRefusal? policy (fs.zipIdx index)).elim (.ok (s.acceptAll (fs.zipIdx index)))
        Except.error := by
  induction fs generalizing s index with
  | nil => rfl
  | cons f fs ih =>
    rw [feedAll, feed_eq, List.zipIdx_cons, firstRefusal?_cons]
    rcases f.refusal? policy index with _ | e
    · exact ih (s.accept index f) (index + 1)
    · rfl

end LayoutState

/-- **A layout fails for the first field that is refused.** -/
lemma layOut_eq (o : LayoutOptions) (template : List Field) :
    layOut o template =
      (firstRefusal? o.unknownFields template.zipIdx).elim
        (.ok ((LayoutState.empty.acceptAll template.zipIdx).finish o.helpIcon)) Except.error := by
  rw [layOut, LayoutState.feedAll_eq]
  rcases firstRefusal? o.unknownFields template.zipIdx with _ | e <;> rfl

/-! ### Changes in place -/

section EStateM

variable {ε σ α β : Type} {x : EStateM ε σ α} {s t : σ}

lemma run_bind {a : α} (hx : x.run s = .ok a t) (k : α → EStateM ε σ β) :
    (x >>= k).run s = (k a).run t := by
  simp only [EStateM.run] at hx
  simp only [EStateM.run, bind, EStateM.bind, hx]

lemma run_bind_error {e : ε} (hx : x.run s = .error e t) (k : α → EStateM ε σ β) :
    (x >>= k).run s = .error e t := by
  simp only [EStateM.run] at hx
  simp only [EStateM.run, bind, EStateM.bind, hx]

end EStateM

namespace LayoutPass

lemma run_modify (g : LayoutState → LayoutState) (s : LayoutState) :
    (modify g : LayoutPass Unit).run s = .ok () (g s) := rfl

lemma run_commit (s : LayoutState) : commit.run s = .ok () s.commit := by
  obtain ⟨committed, current, connections, skipped⟩ := s
  rcases current with _ | r
  · have hkeep : (⟨committed, none, connections, skipped⟩ : LayoutState).commit =
        ⟨committed, none, connections, skipped⟩ := by simp [LayoutState.commit]
    rw [hkeep]
    rfl
  · rfl

lemma run_begin (r : Row) (s : LayoutState) : (begin r).run s = .ok () (s.begin r) :=
  run_bind (run_commit s) _

lemma run_onRow (f : Row → Row) (s : LayoutState) : (onRow f).run s = .ok () (s.onRow f) := by
  obtain ⟨committed, current, connections, skipped⟩ := s
  cases current <;> rfl

/-- A line after the first stands on a row of its own. -/
lemma run_line (line : String) (s : LayoutState) :
    (do begin Row.dummy; onRow (·.pushLabel line) : LayoutPass Unit).run s =
      .ok () ((s.begin Row.dummy).label line) :=
  (run_bind (run_begin _ s) _).trans (run_onRow _ _)

lemma run_lines (lines : List String) (s : LayoutState) :
    (lines.forM fun line => do begin Row.dummy; onRow (·.pushLabel line) : LayoutPass Unit).run s =
      .ok () (lines.foldl (fun s line => (s.begin Row.dummy).label line) s) := by
  induction lines generalizing s with
  | nil => rfl
  | cons line lines ih => exact (run_bind (run_line line s) _).trans (ih _)

lemma run_text (content : String) (s : LayoutState) :
    (text content).run s = .ok () (s.text content) := by
  unfold text LayoutState.text
  rcases Text.segments content with _ | ⟨first, further⟩
  · rfl
  · exact (run_bind (run_onRow _ s) _).trans (run_lines further (s.label first))

lemma run_connection (index : ℕ) {c : Connection} {t : ConnectionType} (ht : c.type? = some t)
    (s : LayoutState) : (connection index c).run s = .ok () (s.connection c t) := by
  have hr : (MonadExcept.ofExcept (c.resolve (some index)) : LayoutPass ConnectionType).run s =
      .ok t s := by
    rw [Connection.resolve, ht]
    rfl
  unfold LayoutState.connection connection
  refine (run_bind hr _).trans ((run_bind (run_modify _ s) _).trans ?_)
  by_cases hs : t.isStatement = true
  · rw [if_pos hs, if_pos hs]
    exact run_begin _ _
  · rw [if_neg hs, if_neg hs]
    refine (run_bind (run_commit _) _).trans ((run_bind (run_modify _ _) _).trans ?_)
    rw [run_modify]
    simp [LayoutState.begin, LayoutState.commit]

/-- A connection of an unknown type is refused before its name is noted. -/
lemma run_connection_refused (index : ℕ) {c : Connection} (ht : c.type? = none) (s : LayoutState) :
    (connection index c).run s =
      .error (.unsupportedType (c.tag.getD "") c.name (some index)) s := by
  have hr : c.resolve (some index) =
      .error (.unsupportedType (c.tag.getD "") c.name (some index)) := by
    rw [Connection.resolve, ht]
  rw [connection, hr]
  rfl

/-- **A field is refused before anything is changed**, or it is accepted. -/
lemma run_feed (policy : UnknownFieldPolicy) (index : ℕ) (f : Field) (s : LayoutState) :
    (feed policy index f).run s =
      (f.refusal? policy index).elim (.ok () (s.accept index f)) (EStateM.Result.error · s) := by
  cases f with
  | text content => exact run_text content s
  | widget name w => exact run_onRow _ s
  | connection c =>
    rcases ht : c.type? with _ | t
    · have hr : (Field.connection c).refusal? policy index =
          some (.unsupportedType (c.tag.getD "") c.name (some index)) := by
        simp [Field.refusal?, ht]
      rw [hr]
      exact run_connection_refused index ht s
    · have hr : (Field.connection c).refusal? policy index = none := by simp [Field.refusal?, ht]
      have ha : s.accept index (.connection c) = s.connection c t := by
        simp [LayoutState.accept, ht]
      rw [hr, ha]
      exact run_connection index ht s
  | unrecognized v => cases policy <;> rfl

/-- A field that is refused leaves no trace in the state. -/
lemma endState_feed (policy : UnknownFieldPolicy) (index : ℕ) (f : Field) (s : LayoutState) :
    (feed policy index f).endState s =
      if (f.refusal? policy index).isNone then s.accept index f else s := by
  rw [endState, run_feed]
  rcases f.refusal? policy index <;> rfl

/-- Going on after refusals ends where the other fields alone lead. -/
lemma feedEach_eq (policy : UnknownFieldPolicy) (s : LayoutState) (fields : List (Field × ℕ)) :
    feedEach policy s fields =
      s.acceptAll (fields.filter fun (f, index) => (f.refusal? policy index).isNone) := by
  rw [LayoutState.acceptAll, List.foldl_filter, feedEach]
  simp only [endState_feed]

lemma filter_of_firstRefusal? {policy : UnknownFieldPolicy} {fields : List (Field × ℕ)}
    (h : firstRefusal? policy fields = none) :
    (fields.filter fun (f, index) => (f.refusal? policy index).isNone) = fields := by
  have hnone := List.findSome?_eq_none_iff.mp h
  exact List.filter_eq_self.mpr fun x hx => Option.isNone_iff_eq_none.mpr (hnone x hx)

end LayoutPass

/-- **A field that fails leaves the pass untouched**, and neither whether it fails nor why depends
on the state of the pass. A pass that goes on after failures therefore gives the layout that the
other fields give at the positions they have; laying out a template fails for the first field that
does, and gives this same layout if there is none. -/
theorem feed_atomic (o : LayoutOptions) :
    (∀ (s : LayoutState) (index : ℕ) (f : Field),
      match (LayoutPass.feed o.unknownFields index f).run s with
      | .error e t => t = s ∧ f.refusal? o.unknownFields index = some e
      | .ok _ _ => f.refusal? o.unknownFields index = none) ∧
    ∀ template : List Field,
      let fields := template.zipIdx
      let sound := fields.filter fun (f, index) => (f.refusal? o.unknownFields index).isNone
      let through := (LayoutPass.feedEach o.unknownFields .empty fields).finish o.helpIcon
      through = (LayoutPass.feedEach o.unknownFields .empty sound).finish o.helpIcon ∧
      layOut o template =
        match fields.findSome? fun (f, index) => f.refusal? o.unknownFields index with
        | some e => .error e
        | none => .ok through := by
  refine ⟨fun s index f => ?_, fun template => ⟨?_, ?_⟩⟩
  · rw [LayoutPass.run_feed]
    rcases f.refusal? o.unknownFields index with _ | e
    · rfl
    · exact ⟨rfl, rfl⟩
  · rw [LayoutPass.feedEach_eq, LayoutPass.feedEach_eq, List.filter_filter]
    simp only [Bool.and_self]
  · rw [layOut_eq, firstRefusal?]
    rcases hfirst : template.zipIdx.findSome? _ with _ | e
    · rw [LayoutPass.feedEach_eq, LayoutPass.filter_of_firstRefusal? hfirst]
      rfl
    · rfl

end BlockVocabulary
