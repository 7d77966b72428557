import Mathlib.Algebra.Ring.Nat
import BlockVocabulary.Proofs.References

/-!
The books of a compile.

Every declaration is accounted for once, as a reference in the toolbox or as an error. The errors are
counted in full and the first of them kept, and all warnings are kept.
-/

namespace BlockVocabulary

/-- The entries of a category that were accepted. -/
def CompiledCategory.accepted (cc : CompiledCategory) : List Outcome :=
  cc.outcomes.filter Outcome.isAccepted

/-- The entries that failed. -/
def Compilation.failed (c : Compilation) : List Outcome := c.outcomes.filter (!·.isAccepted)

/-! ### Accepted and failed outcomes -/

lemma isAccepted_eq_isSome_reference? (out : Outcome) :
    out.isAccepted = out.reference?.isSome := by
  rw [Outcome.reference?, Option.isSome_map, Outcome.isAccepted]

/-- Every accepted entry has one reference. -/
lemma map_some_references (outs : List Outcome) :
    (outs.filterMap Outcome.reference?).map some =
      (outs.filter Outcome.isAccepted).map Outcome.reference? := by
  rw [List.map_filterMap_some_eq_filter_map_isSome, List.filter_map]
  exact congrArg _ (List.filter_congr fun out _ => (isAccepted_eq_isSome_reference? out).symm)

/-- The first failures are those of the first entries that failed. -/
lemma take_failures (outs : List Outcome) (n : ℕ) :
    (outs.filterMap Outcome.failure?).take n =
      ((outs.filter (!·.isAccepted)).take n).filterMap Outcome.failure? := by
  induction outs generalizing n with
  | nil => simp
  | cons out outs ih =>
    have hout := isAccepted_eq_isNone_failure? out
    rcases hf : out.failure? with _ | d <;> rw [hf] at hout
    · rw [List.filterMap_cons_none hf, List.filter_cons_of_neg (by simp [hout]), ih]
    · rw [List.filterMap_cons_some hf, List.filter_cons_of_pos (by simp [hout])]
      cases n with
      | zero => rfl
      | succ n => rw [List.take_succ_cons, List.take_succ_cons, List.filterMap_cons_some hf, ih]

/-! ### Totals -/

/-- As many errors are counted as entries failed. -/
lemma totalErrors_compile (o : Options) (vocabulary : List Category) :
    (compile o vocabulary).diagnostics.totalErrors = (compile o vocabulary).failed.length := by
  rw [diagnostics_compile, Compilation.failed, List.length_filterMap_eq_countP,
    List.countP_eq_length_filter]
  simp only [isAccepted_eq_isNone_failure?, Option.not_isNone]

lemma length_outcomes (o : Options) (vocabulary : List Category) :
    (compile o vocabulary).outcomes.length = (declarations vocabulary).length := by
  rw [outcomes_eq_judged, judged_compile, List.length_map,
    ← judge_entry o [] (declarations vocabulary), List.length_map, judge_entry]

/-- **Every declaration is accepted or counted as an error.** -/
lemma length_names_add_totalErrors (o : Options) (vocabulary : List Category) :
    (compile o vocabulary).names.length + (compile o vocabulary).diagnostics.totalErrors =
      (declarations vocabulary).length := by
  rw [totalErrors_compile, Compilation.names,
    acceptedNames_eq_map fun _ => named_of_mem_outcomes, List.length_map, Compilation.failed,
    ← List.length_eq_length_filter_add, length_outcomes]

/-- A compile succeeds exactly if every entry was accepted. -/
lemma succeeded_iff (o : Options) (vocabulary : List Category) :
    (compile o vocabulary).succeeded = true ↔
      ∀ out ∈ (compile o vocabulary).outcomes, out.isAccepted = true := by
  simp [Compilation.succeeded, Diagnostics.hasErrors, totalErrors_compile, Compilation.failed]

/-! ### The books -/

/-- How the declarations of a vocabulary are accounted for. -/
structure Compilation.Accounts (c : Compilation) (vocabulary : List Category) : Prop where
  /-- Every entry of every category has an outcome. -/
  covers : c.Covers vocabulary
  /-- Every category is in the toolbox, with the references of its accepted entries. -/
  contents : (c.toolbox.contents.take vocabulary.length).map
      (fun tc => (tc.name, tc.contents.map some)) =
    c.categories.map fun cc => (cc.category.name, cc.accepted.map Outcome.reference?)
  /-- A reference goes by the name of its entry. -/
  types : (c.toolbox.contents.take vocabulary.length).map ToolboxCategory.blockTypes =
    c.categories.map fun cc => cc.accepted.map (·.entry.name)
  /-- There are as many references and errors as entries. -/
  total : ((c.toolbox.contents.take vocabulary.length).map (·.contents.length)).sum +
    c.diagnostics.totalErrors = (vocabulary.map (·.entries.length)).sum
  /-- An entry that failed recorded one error, any other none. -/
  once : ∀ out ∈ c.outcomes,
    (out.diagnostics.filter (·.isError)).length = if out.isAccepted then 0 else 1
  /-- The errors kept are those of the first entries that failed. -/
  errors : c.diagnostics.errors = (c.failed.take (min 20 c.diagnostics.totalErrors)).flatMap
    fun out => out.diagnostics.filter (·.isError)
  /-- All warnings are kept. -/
  warnings : c.diagnostics.warnings =
    c.outcomes.flatMap fun out => out.diagnostics.filter (!·.isError)
  totalWarnings : c.diagnostics.warnings.length = c.diagnostics.totalWarnings
  /-- The compile succeeds if no entry failed. -/
  succeeded : c.succeeded = true ↔ ∀ out ∈ c.outcomes, out.isAccepted = true

/-- **A compile accounts for every declaration.** -/
theorem accounts_compile (o : Options) (vocabulary : List Category) :
    (compile o vocabulary).Accounts vocabulary := by
  have hgraded : ∀ out ∈ (compile o vocabulary).outcomes, out.Graded :=
    fun _ => graded_of_mem_outcomes
  have hnamed : ∀ cc ∈ (compile o vocabulary).categories, ∀ out ∈ cc.outcomes, out.Named :=
    fun cc hcc out hout => named_of_mem_outcomes (List.mem_flatMap.mpr ⟨cc, hcc, hout⟩)
  have htake := take_contents_toolbox o vocabulary
  have hdiag := diagnostics_compile o vocabulary
  refine ⟨covers_compile o vocabulary, ?_, ?_, ?_, ?_, ?_, ?_, ?_, succeeded_iff o vocabulary⟩
  · rw [htake, List.map_map]
    exact List.map_congr_left fun cc _ => Prod.ext rfl (map_some_references cc.outcomes)
  · rw [htake, List.map_map]
    exact List.map_congr_left fun cc hcc =>
      (blockTypes_toolboxCategory cc).trans (acceptedNames_eq_map (hnamed cc hcc))
  · have hrefs : ((compile o vocabulary).references.map some).length =
        (compile o vocabulary).names.length := by
      rw [Compilation.references, map_some_references, Compilation.names,
        acceptedNames_eq_map fun _ => named_of_mem_outcomes, List.length_map, List.length_map]
    rw [← List.length_flatMap, references_toolbox, ← List.length_map, hrefs,
      length_names_add_totalErrors, declarations, List.length_flatMap]
    simp only [List.length_map]
  · intro out hout
    rw [(hgraded out hout).filter_isError, isAccepted_eq_isNone_failure?]
    rcases out.failure? with _ | d <;> rfl
  · have hkept : (compile o vocabulary).diagnostics.errors =
        ((compile o vocabulary).failed.take 20).filterMap Outcome.failure? := by
      rw [hdiag]
      exact take_failures _ _
    rw [hkept, totalErrors_compile, ← List.take_eq_take_min, List.filterMap_eq_flatMap_toList]
    refine List.flatMap_congr fun out hout => ?_
    have hmem := (List.mem_filter.mp (List.mem_of_mem_take hout)).1
    exact (hgraded out hmem).filter_isError.symm
  · rw [hdiag]
    exact List.flatMap_congr fun out hout => (hgraded out hout).filter_not_isError.symm
  · rw [hdiag]

end BlockVocabulary
