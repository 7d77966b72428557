import BlockVocabulary.Proofs.Chunks
import BlockVocabulary.Proofs.Refusals

/-!
Finished rows are final.

Whatever is read later, the finished rows stay as they are and where they are. The open row gains
content at its end only, and when it is finished it comes right after the rows that were finished
before it. Every transition of the pass is of this kind, and so is any sequence of them.
-/

namespace BlockVocabulary

/-- The row `r'` is the row `r`, with more content at its end. -/
structure Row.Grows (r r' : Row) : Prop where
  input : r'.input = r.input
  fragments : r.fragments <+: r'.fragments

namespace Row

lemma Grows.refl (r : Row) : Grows r r := ⟨rfl, List.prefix_rfl⟩

lemma Grows.trans {r r' r'' : Row} (h : Grows r r') (k : Grows r' r'') : Grows r r'' :=
  ⟨k.input.trans h.input, h.fragments.trans k.fragments⟩

lemma grows_push (r : Row) (f : Fragment) : Grows r (r.push f) := ⟨rfl, List.prefix_append _ _⟩

lemma grows_pushLabel (r : Row) (text : String) : Grows r (r.pushLabel text) := by
  unfold pushLabel
  split
  · exact Grows.refl r
  · exact grows_push r (.label text)

end Row

namespace LayoutState

variable {s t u : LayoutState}

/-- From `s` to `t` the pass has kept the finished rows, and the open row has grown: it is open
still, and then no row was finished, or it stands right after the rows that were finished before. -/
structure Continues (s t : LayoutState) : Prop where
  committed : s.committed <+: t.committed
  current : ∀ r, s.current = some r → ∃ r', r.Grows r' ∧
    (t.current = some r' ∧ t.committed = s.committed ∨
      t.committed[s.committed.length]? = some r')

lemma Continues.refl (s : LayoutState) : Continues s s :=
  ⟨List.prefix_rfl, fun r hr => ⟨r, .refl r, .inl ⟨hr, rfl⟩⟩⟩

lemma Continues.trans (h : Continues s t) (k : Continues t u) : Continues s u := by
  refine ⟨h.committed.trans k.committed, fun r hr => ?_⟩
  obtain ⟨r', hgrows, ⟨hopen, hsame⟩ | hdone⟩ := h.current r hr
  · obtain ⟨r'', hgrows', hplace⟩ := k.current r' hopen
    rw [hsame] at hplace
    exact ⟨r'', hgrows.trans hgrows', hplace⟩
  · -- a finished row keeps its place
    obtain ⟨hi, rfl⟩ := List.getElem?_eq_some_iff.mp hdone
    exact ⟨_, hgrows, .inr (List.prefix_iff_getElem?.mp k.committed _ hi)⟩

/-! ### Transitions -/

lemma continues_onRow {f : Row → Row} (hf : ∀ r : Row, r.Grows (f r)) (s : LayoutState) :
    Continues s (s.onRow f) where
  committed := List.prefix_rfl
  current r hr := ⟨f r, hf r, .inl ⟨by rw [onRow, hr]; rfl, rfl⟩⟩

/-- The open row may be finished, and then rows that never were open. -/
lemma continues_of_committed {further : List Row}
    (h : t.committed = s.committed ++ s.current.toList ++ further) : Continues s t where
  committed := ⟨s.current.toList ++ further, by rw [h, List.append_assoc]⟩
  current r hr := ⟨r, .refl r, .inr (by rw [h, hr]; simp)⟩

lemma continues_commit (s : LayoutState) : Continues s s.commit :=
  continues_of_committed (List.append_nil _).symm

lemma continues_begin (s : LayoutState) (r : Row) : Continues s (s.begin r) :=
  continues_of_committed (List.append_nil _).symm

lemma continues_text (s : LayoutState) (content : String) : Continues s (s.text content) := by
  have hlabel : ∀ (t : LayoutState) (line : String), Continues t (t.label line) :=
    fun t line => continues_onRow (fun r => r.grows_pushLabel line) t
  refine text_invariant (hlabel s) (fun t line ht => ?_) content
  exact ht.trans ((continues_begin t Row.dummy).trans (hlabel _ line))

lemma continues_connection (s : LayoutState) (c : Connection) (t : ConnectionType) :
    Continues s (s.connection c t) := by
  unfold connection
  split
  · exact continues_of_committed (List.append_nil _).symm
  · exact continues_of_committed rfl

lemma continues_accept (s : LayoutState) (index : ℕ) (f : Field) :
    Continues s (s.accept index f) := by
  cases f with
  | text content => exact continues_text s content
  | widget name w => exact continues_onRow (fun r => r.grows_push (.widget name w)) s
  | connection c =>
    rw [accept]
    rcases c.type? with _ | t
    · exact Continues.refl s
    · exact continues_connection s c t
  | unrecognized v =>
    exact ⟨List.prefix_rfl, fun r hr => ⟨r, .refl r, .inl ⟨hr, rfl⟩⟩⟩

/-! ### Runs -/

/-- A field continues the pass also where it fails. -/
lemma continues_endState_feed (policy : UnknownFieldPolicy) (s : LayoutState) (index : ℕ)
    (f : Field) : Continues s ((LayoutPass.feed policy index f).endState s) := by
  rw [LayoutPass.endState_feed]
  split
  · exact continues_accept s index f
  · exact Continues.refl s

lemma continues_feedEach (policy : UnknownFieldPolicy) (s : LayoutState)
    (fields : List (Field × ℕ)) : Continues s (LayoutPass.feedEach policy s fields) := by
  induction fields generalizing s with
  | nil => exact Continues.refl s
  | cons x fields ih => exact (continues_endState_feed policy s x.2 x.1).trans (ih _)

/-- The end of the pass finishes the open row, whatever it is. -/
lemma continues_finish (s : LayoutState) (helpIcon : String) :
    Continues s ⟨(s.finish helpIcon).rows, none, s.connections, s.skipped⟩ :=
  (continues_onRow (fun r => r.grows_push (.help helpIcon)) s).trans (continues_commit _)

/-! ### How many rows are finished -/

lemma upTo_accept {policy : UnknownFieldPolicy} {index : ℕ} {f : Field}
    (hf : f.refusal? policy index = none) (hs : s.current.isSome) (ps : List Chunk) :
    (s.accept index f).upTo ps = s.upTo (f.chunks ++ ps) ∧ (s.accept index f).current.isSome := by
  have hfeed : s.feed policy index f = .ok (s.accept index f) := by
    rw [feed_eq, hf]
    rfl
  exact upTo_feed hfeed hs ps

lemma upTo_acceptAll {policy : UnknownFieldPolicy} {fields : List (Field × ℕ)}
    (hall : ∀ x ∈ fields, x.1.refusal? policy x.2 = none) (hs : s.current.isSome)
    (ps : List Chunk) :
    (s.acceptAll fields).upTo ps = s.upTo (chunks (fields.map (·.1)) ++ ps) ∧
      (s.acceptAll fields).current.isSome := by
  induction fields generalizing s with
  | nil => exact ⟨rfl, hs⟩
  | cons x fields ih =>
    obtain ⟨hx, hfields⟩ := List.forall_mem_cons.mp hall
    obtain ⟨hrows, hopen⟩ := upTo_accept hx hs (chunks (fields.map (·.1)) ++ ps)
    obtain ⟨hrest, hlast⟩ := ih hfields hopen
    refine ⟨hrest.trans (hrows.trans ?_), hlast⟩
    rw [List.map_cons, chunks, chunks, List.flatMap_cons, List.append_assoc]

/-- All rows but the open one are finished. -/
lemma length_upTo_nil (s : LayoutState) : (s.upTo []).length = s.committed.length + 1 := by
  simp [upTo, rowsFrom]

/-- With a row open, as many rows are finished as the fields that are taken begin. -/
lemma length_committed_feedEach (policy : UnknownFieldPolicy) (hs : s.current.isSome)
    (fields : List (Field × ℕ)) :
    (LayoutPass.feedEach policy s fields).committed.length = s.committed.length +
      begun (chunks ((fields.filter fun (f, index) => (f.refusal? policy index).isNone).map
        (·.1))) := by
  have hall : ∀ x ∈ fields.filter fun (f, index) => (f.refusal? policy index).isNone,
      x.1.refusal? policy x.2 = none := fun x hx =>
    Option.isNone_iff_eq_none.mp (List.mem_filter.mp hx).2
  have hrows := congrArg List.length (upTo_acceptAll hall hs []).1
  rw [← LayoutPass.feedEach_eq, length_upTo_nil, List.append_nil, upTo, List.length_append,
    length_rowsFrom] at hrows
  omega

end LayoutState

/-- **Finished rows are final.** In whatever state a pass is, the rows finished so far begin the
rows finished later, however many fields are read, those that fail among them, and also once the
pass has ended. A row that is open keeps its input and gains content at its end only. It stays open
while no row is finished, and else it comes right after the rows finished before it, as it does when
the pass ends. As many rows are finished meanwhile as the fields that are taken begin. -/
theorem committed_final (o : LayoutOptions) (s : LayoutState) (fields : List (Field × ℕ)) :
    let t := LayoutPass.feedEach o.unknownFields s fields
    let l := t.finish o.helpIcon
    let taken := fields.filter fun (f, index) => (f.refusal? o.unknownFields index).isNone
    s.committed <+: t.committed ∧ s.committed <+: l.rows ∧
    ∀ r, s.current = some r →
      t.committed.length = s.committed.length + begun (chunks (taken.map (·.1))) ∧
      (∃ r', r'.input = r.input ∧ r.fragments <+: r'.fragments ∧
        (t.current = some r' ∧ t.committed = s.committed ∨
          t.committed[s.committed.length]? = some r')) ∧
      ∃ r', r'.input = r.input ∧ r.fragments <+: r'.fragments ∧
        l.rows[s.committed.length]? = some r' := by
  intro t l taken
  have hfed := LayoutState.continues_feedEach o.unknownFields s fields
  have hended := hfed.trans (LayoutState.continues_finish t o.helpIcon)
  refine ⟨hfed.committed, hended.committed, fun r hr => ⟨?_, ?_, ?_⟩⟩
  · exact LayoutState.length_committed_feedEach o.unknownFields (by rw [hr]; rfl) fields
  · obtain ⟨r', hgrows, hplace⟩ := hfed.current r hr
    exact ⟨r', hgrows.input, hgrows.fragments, hplace⟩
  · obtain ⟨r', hgrows, ⟨hopen, -⟩ | hdone⟩ := hended.current r hr
    · cases hopen
    · exact ⟨r', hgrows.input, hgrows.fragments, hdone⟩

/-- A row with text on it and then a place for statements, the row of which has been continued. -/
def halfRead : LayoutState :=
  LayoutPass.feedEach .failFast .empty
    [(.text "repeat", 0), (.connection { tag := some "void", name := "DO" }, 1), (.text "then", 2)]

/-- Two elements that fail, then text for the open row and a line below it, and a connection. -/
def furtherFields : List (Field × ℕ) :=
  [(.unrecognized .null, 3), (.connection { tag := some "date", name := "AT" }, 4),
    (.text "go\nuntil", 5), (.connection { tag := some "number", name := "N" }, 6)]

theorem committed_final_halfRead :
    let t := LayoutPass.feedEach .failFast halfRead furtherFields
    halfRead.current = some ⟨.statement "DO" none, [.label "then"]⟩ ∧
    halfRead.committed = [⟨.dummy, [.label "repeat"]⟩] ∧
    halfRead.committed <+: t.committed ∧ t.committed.length = 4 ∧
    ∃ r, r.input = .statement "DO" none ∧ [.label "then"] <+: r.fragments ∧
      (t.finish "media/help.svg").rows[1]? = some r := by
  obtain ⟨hfed, -, hopen⟩ := committed_final {} halfRead furtherFields
  obtain ⟨hlength, -, hended⟩ := hopen ⟨.statement "DO" none, [.label "then"]⟩ rfl
  exact ⟨rfl, rfl, hfed, hlength, hended⟩

end BlockVocabulary
