import BlockVocabulary.Proofs.Refusals

/-!
The permissive policy.

It gives a template the layout, or the error, that the other policy gives the known fields of the
template on their own. Only positions tell the two apart: they are always those of the template.
-/

namespace BlockVocabulary

/-- The known ones among some fields. -/
def known (fields : List (Field × ℕ)) : List (Field × ℕ) := fields.filter fun x => x.1.isRecognized

/-- The error, at another position. -/
def LayoutError.moved (index : ℕ) : LayoutError → LayoutError
  | unsupportedType tag connection _ => unsupportedType tag connection (some index)
  | unknownField _ => unknownField index

/-! ### Positions -/

lemma pairwise_zipIdx {α : Type} (l : List α) (index : ℕ) :
    (l.zipIdx index).Pairwise (·.2 < ·.2) := by
  have hpositions : ((l.zipIdx index).map Prod.snd).Pairwise (· < ·) := by
    rw [List.zipIdx_map_snd]
    exact List.pairwise_lt_range' 1
  exact List.pairwise_map.mp hpositions

/-- Positions are listed in the order of the template, each once. -/
lemma pairwise_unknownPositions (index : ℕ) (template : List Field) :
    (unknownPositions index template).Pairwise (· < ·) := by
  have hpos := pairwise_zipIdx template index
  refine List.pairwise_filterMap.mpr (hpos.imp fun {a b} hab i hi j hj => ?_)
  rcases ha : a.1.isRecognized <;> rcases hb : b.1.isRecognized <;> simp [ha, hb] at hi hj
  omega

lemma mem_unknownPositions_iff (template : List Field) (i : ℕ) :
    i ∈ unknownPositions 0 template ↔ ∃ v, template[i]? = some (.unrecognized v) := by
  simp only [unknownPositions, List.mem_filterMap, Prod.exists, List.mem_zipIdx_iff_getElem?]
  constructor
  · rintro ⟨f, j, hf, hi⟩
    cases f with
    | unrecognized v =>
      obtain rfl : j = i := by simpa [Field.isRecognized] using hi
      exact ⟨v, hf⟩
    | _ => simp [Field.isRecognized] at hi
  · rintro ⟨v, hv⟩
    exact ⟨.unrecognized v, i, hv, by simp [Field.isRecognized]⟩

lemma known_cons_of_isRecognized {f : Field} (hf : f.isRecognized = true) (index : ℕ)
    (fields : List (Field × ℕ)) : known ((f, index) :: fields) = (f, index) :: known fields :=
  List.filter_cons_of_pos hf

lemma known_cons_unrecognized (v : Json) (index : ℕ) (fields : List (Field × ℕ)) :
    known ((.unrecognized v, index) :: fields) = known fields :=
  List.filter_cons_of_neg Bool.false_ne_true

lemma map_fst_known (template : List Field) (index : ℕ) :
    (known (template.zipIdx index)).map Prod.fst = template.filter Field.isRecognized := by
  conv_rhs => rw [← List.zipIdx_map_fst index template, List.filter_map]
  rfl

/-! ### Refusals -/

/-- The permissive policy refuses known fields only. -/
lemma firstRefusal?_known (fields : List (Field × ℕ)) :
    firstRefusal? .permissive (known fields) = firstRefusal? .permissive fields := by
  induction fields with
  | nil => rfl
  | cons x fields ih =>
    obtain ⟨f, index⟩ := x
    rw [firstRefusal?_cons, ← ih]
    by_cases hf : f.isRecognized = true
    · rw [known_cons_of_isRecognized hf, firstRefusal?_cons]
    · obtain ⟨v, rfl⟩ := Field.eq_unrecognized hf
      rw [known_cons_unrecognized]
      rfl

/-- A known field is refused under both policies alike, wherever it stands. -/
lemma refusal?_moved {f : Field} (hf : f.isRecognized = true) (i j : ℕ) :
    f.refusal? .permissive i = (f.refusal? .failFast j).map (LayoutError.moved i) ∧
      ∀ e ∈ f.refusal? .failFast j, e.field? = some j := by
  cases f with
  | unrecognized v => cases hf
  | connection c =>
    rcases hc : c.type? <;> simp [Field.refusal?, hc, LayoutError.moved, LayoutError.field?]
  | _ => simp [Field.refusal?]

/-- Of known fields the same one is refused first when all stand at other positions. -/
lemma firstRefusal?_moved {fields : List (Field × ℕ)}
    (hknown : ∀ x ∈ fields, x.1.isRecognized = true) (start : ℕ) :
    match firstRefusal? .failFast ((fields.map Prod.fst).zipIdx start) with
    | none => firstRefusal? .permissive fields = none
    | some e => ∃ k f index, e.field? = some (start + k) ∧ fields[k]? = some (f, index) ∧
        firstRefusal? .permissive fields = some (e.moved index) := by
  induction fields generalizing start with
  | nil => rfl
  | cons x fields ih =>
    obtain ⟨f, index⟩ := x
    have hrest := ih (fun y hy => hknown y (List.mem_cons_of_mem _ hy)) (start + 1)
    obtain ⟨hmoved, hfield⟩ := refusal?_moved (hknown (f, index) List.mem_cons_self) index start
    rw [List.map_cons, List.zipIdx_cons, firstRefusal?_cons, firstRefusal?_cons, hmoved]
    rcases hf : f.refusal? .failFast start with _ | e
    · rw [Option.none_or]
      revert hrest
      rcases firstRefusal? .failFast ((fields.map Prod.fst).zipIdx (start + 1)) with _ | e
      · exact id
      · rintro ⟨k, g, i, hk, hget, hfirst⟩
        exact ⟨k + 1, g, i, by rw [hk]; congr 1; omega, hget, hfirst⟩
    · exact ⟨0, f, index, hfield e hf, rfl, rfl⟩

namespace LayoutState

/-! ### States -/

/-- What has been left out has no part in what follows. -/
lemma text_skipping (s : LayoutState) (skipped : List ℕ) (content : String) :
    { s with skipped }.text content = { s.text content with skipped } :=
  (text_comm (φ := fun t => { t with skipped }) (fun _ _ => rfl) (fun _ => rfl) s content).symm

lemma connection_skipping (s : LayoutState) (skipped : List ℕ) (c : Connection)
    (t : ConnectionType) :
    { s with skipped }.connection c t = { s.connection c t with skipped } := by
  unfold connection
  split <;> rfl

/-- A known field does the same wherever it stands. -/
lemma accept_skipping {f : Field} (hf : f.isRecognized = true) (s : LayoutState)
    (skipped : List ℕ) (i j : ℕ) :
    { s with skipped }.accept j f = { s.accept i f with skipped } := by
  cases f with
  | text content => exact text_skipping s skipped content
  | widget name w => rfl
  | connection c =>
    rcases ht : c.type? with _ | t
    · simp [accept, ht]
    · simpa [accept, ht] using connection_skipping s skipped c t
  | unrecognized v => cases hf

/-- An element that is left out neither begins nor finishes a row. -/
lemma acceptAll_known (s : LayoutState) (skipped : List ℕ) (fields : List (Field × ℕ))
    (start : ℕ) :
    { s with skipped }.acceptAll (((known fields).map Prod.fst).zipIdx start) =
      { s.acceptAll fields with skipped } := by
  induction fields generalizing s start with
  | nil => rfl
  | cons x fields ih =>
    obtain ⟨f, index⟩ := x
    by_cases hf : f.isRecognized = true
    · rw [known_cons_of_isRecognized hf, List.map_cons, List.zipIdx_cons, acceptAll_cons,
        accept_skipping hf s skipped index start, acceptAll_cons]
      exact ih (s.accept index f) (start + 1)
    · obtain ⟨v, rfl⟩ := Field.eq_unrecognized hf
      rw [known_cons_unrecognized]
      exact ih (s.accept index (.unrecognized v)) start

end LayoutState

/-- **The permissive policy lays out the known fields of a template** as the other policy does when
they stand alone: with the same rows and the same connections if it does, and else with the same
error at the position that the field has in the template. What it leaves out are the positions of
all elements that are no known field, in increasing order. -/
theorem layOut_permissive (template : List Field) (helpIcon : String) :
    match layOut ⟨.failFast, helpIcon⟩ (template.filter Field.isRecognized) with
    | .ok l => ∃ skipped : List ℕ,
        layOut ⟨.permissive, helpIcon⟩ template = .ok ⟨l.rows, l.connections, skipped⟩ ∧
        skipped.Pairwise (· < ·) ∧
        ∀ i, i ∈ skipped ↔ ∃ v, template[i]? = some (.unrecognized v)
    | .error e => ∃ k f index,
        e.field? = some k ∧ (known template.zipIdx)[k]? = some (f, index) ∧
        layOut ⟨.permissive, helpIcon⟩ template = .error (e.moved index) := by
  have hknown : ∀ x ∈ known template.zipIdx, x.1.isRecognized = true :=
    fun x hx => (List.mem_filter.mp hx).2
  have hrefusal := firstRefusal?_moved hknown 0
  rw [map_fst_known, firstRefusal?_known] at hrefusal
  have hstrict := layOut_eq ⟨.failFast, helpIcon⟩ (template.filter Field.isRecognized)
  have hlenient := layOut_eq ⟨.permissive, helpIcon⟩ template
  dsimp only at hstrict hlenient
  rcases hfirst : firstRefusal? .failFast (template.filter Field.isRecognized).zipIdx with _ | e
  · rw [hfirst] at hstrict hrefusal
    rw [hrefusal] at hlenient
    have hstate := LayoutState.acceptAll_known .empty [] template.zipIdx 0
    rw [map_fst_known] at hstate
    have hl : (LayoutState.empty.acceptAll (template.filter Field.isRecognized).zipIdx).finish
        helpIcon =
        { (LayoutState.empty.acceptAll template.zipIdx).finish helpIcon with skipped := [] } :=
      congrArg (·.finish helpIcon) hstate
    rw [hstrict, hl]
    refine ⟨unknownPositions 0 template, ?_, pairwise_unknownPositions 0 template,
      mem_unknownPositions_iff template⟩
    rw [← skipped_layOut hlenient]
    exact hlenient
  · rw [hfirst] at hstrict hrefusal
    obtain ⟨k, f, index, hk, hget, hmoved⟩ := hrefusal
    rw [hmoved] at hlenient
    rw [hstrict]
    exact ⟨k, f, index, hk.trans (congrArg some (Nat.zero_add k)), hget, hlenient⟩

end BlockVocabulary
