import BlockVocabulary.Compilation
import BlockVocabulary.Proofs.Collection
import BlockVocabulary.Proofs.Judgement

/-!
A compile as one pass over the declarations.

Categories only lend their name and colour to their entries, so the outcomes are those of judging
the declarations one after the other, whatever category they stand in; all that is carried along
is which names have been accepted. The diagnostics of a compile are read off this sequence.
-/

namespace BlockVocabulary

/-- The declarations of a vocabulary in order, each with its category. -/
def declarations (vocabulary : List Category) : List (Category × Entry) :=
  vocabulary.flatMap fun c => c.entries.map (c, ·)

/-- The outcomes of declarations, `accepted` being the names accepted before. -/
def judge (o : Options) (accepted : List String) :
    List (Category × Entry) → List (Category × Outcome)
  | [] => []
  | (c, e) :: ds =>
    let out := e.outcome o c.name (visibleColour c.colour) (accepted.contains e.name)
    (c, out) :: judge o (accepted ++ acceptedNames [out]) ds

/-- The outcomes of a compile, each with its category. -/
def Compilation.judged (c : Compilation) : List (Category × Outcome) :=
  c.categories.flatMap fun cc => cc.outcomes.map (cc.category, ·)

lemma acceptedNames_append (outs outs' : List Outcome) :
    acceptedNames (outs ++ outs') = acceptedNames outs ++ acceptedNames outs' :=
  List.filterMap_append

lemma judge_append (o : Options) (accepted : List String) (ds ds' : List (Category × Entry)) :
    judge o accepted (ds ++ ds') = judge o accepted ds ++
      judge o (accepted ++ acceptedNames ((judge o accepted ds).map (·.2))) ds' := by
  induction ds generalizing accepted with
  | nil => simp [judge, acceptedNames]
  | cons d ds ih =>
    rw [List.cons_append, judge, ih, judge, List.map_cons,
      ← List.singleton_append (l := List.map _ _), acceptedNames_append, List.append_assoc, List.cons_append]

lemma judge_entries (o : Options) (c : Category) (accepted : List String) (es : List Entry) :
    judge o accepted (es.map (c, ·)) =
      (compileEntries o c.name (visibleColour c.colour) accepted es).map (c, ·) := by
  induction es generalizing accepted with
  | nil => rfl
  | cons e es ih => simp [judge, compileEntries, ih]

lemma judge_categories (o : Options) (accepted : List String) (vocabulary : List Category) :
    judge o accepted (declarations vocabulary) =
      (compileCategories o accepted vocabulary).flatMap fun cc =>
        cc.outcomes.map (cc.category, ·) := by
  induction vocabulary generalizing accepted with
  | nil => rfl
  | cons c cs ih =>
    have hd : declarations (c :: cs) = c.entries.map (c, ·) ++ declarations cs := rfl
    rw [hd, judge_append, judge_entries, ih]
    simp [compileCategories, Function.comp_def]

/-- **A compile judges the declarations in order.** -/
lemma judged_compile (o : Options) (vocabulary : List Category) :
    (compile o vocabulary).judged = judge o [] (declarations vocabulary) :=
  (judge_categories o [] vocabulary).symm

lemma outcomes_eq_judged (c : Compilation) : c.outcomes = c.judged.map (·.2) := by
  simp [Compilation.outcomes, Compilation.judged, List.map_flatMap, Function.comp_def]

/-- Every declaration has its outcome. -/
lemma judge_entry (o : Options) (accepted : List String) (ds : List (Category × Entry)) :
    (judge o accepted ds).map (fun d => (d.1, d.2.entry)) = ds := by
  induction ds generalizing accepted with
  | nil => rfl
  | cons d ds ih => simp [judge, ih]

/-- A declaration is judged on the names that those before it have taken. -/
lemma getElem?_judge (o : Options) (accepted : List String) (ds : List (Category × Entry)) (i : ℕ) :
    (judge o accepted ds)[i]? = ds[i]?.map fun d =>
      (d.1, d.2.outcome o d.1.name (visibleColour d.1.colour)
        ((accepted ++ acceptedNames (((judge o accepted ds).take i).map (·.2))).contains
          d.2.name)) := by
  induction ds generalizing accepted i with
  | nil => simp [judge]
  | cons d ds ih =>
    cases i with
    | zero => simp [judge, acceptedNames]
    | succ i =>
      rw [judge, List.getElem?_cons_succ, ih, List.getElem?_cons_succ, List.take_succ_cons,
        List.map_cons, ← List.singleton_append (l := List.map _ _), acceptedNames_append,
        List.append_assoc]

lemma length_compileCategories (o : Options) (accepted : List String)
    (vocabulary : List Category) :
    (compileCategories o accepted vocabulary).length = vocabulary.length := by
  induction vocabulary generalizing accepted with
  | nil => rfl
  | cons c cs ih => simp [compileCategories, ih]

lemma length_declarations (vocabulary : List Category) :
    (declarations vocabulary).length = (vocabulary.flatMap (·.entries)).length := by
  simp [declarations, List.length_flatMap]

lemma mem_judge {o : Options} {accepted : List String} {ds : List (Category × Entry)}
    {d : Category × Outcome} (h : d ∈ judge o accepted ds) :
    ∃ declared, d.2 = d.2.entry.outcome o d.1.name (visibleColour d.1.colour) declared := by
  induction ds generalizing accepted with
  | nil => cases h
  | cons d' ds ih =>
    rcases List.mem_cons.mp h with rfl | h
    · exact ⟨accepted.contains d'.2.name, by simp⟩
    · exact ih h

lemma mem_judged_compile {o : Options} {vocabulary : List Category} {d : Category × Outcome}
    (h : d ∈ (compile o vocabulary).judged) :
    ∃ declared, d.2 = d.2.entry.outcome o d.1.name (visibleColour d.1.colour) declared :=
  mem_judge (judged_compile o vocabulary ▸ h)

lemma mem_outcomes_compile {o : Options} {vocabulary : List Category} {out : Outcome}
    (h : out ∈ (compile o vocabulary).outcomes) :
    ∃ category colour declared, out = out.entry.outcome o category colour declared := by
  rw [outcomes_eq_judged] at h
  obtain ⟨d, hd, rfl⟩ := List.mem_map.mp h
  obtain ⟨declared, hout⟩ := mem_judged_compile hd
  exact ⟨_, _, declared, hout⟩

/-- An outcome is of an entry that was declared. -/
lemma entry_of_mem_outcomes {o : Options} {vocabulary : List Category} {out : Outcome}
    (h : out ∈ (compile o vocabulary).outcomes) : ∃ c ∈ vocabulary, out.entry ∈ c.entries := by
  rw [outcomes_eq_judged, judged_compile] at h
  obtain ⟨d, hd, rfl⟩ := List.mem_map.mp h
  have hentry : (d.1, d.2.entry) ∈ declarations vocabulary := by
    rw [← judge_entry o [] (declarations vocabulary)]
    exact List.mem_map.mpr ⟨d, hd, rfl⟩
  obtain ⟨c, hc, hmem⟩ := List.mem_flatMap.mp hentry
  obtain ⟨e, he, heq⟩ := List.mem_map.mp hmem
  exact ⟨c, hc, (Prod.mk.inj heq).2 ▸ he⟩

/-! ### Diagnostics -/

lemma graded_of_mem_outcomes {o : Options} {vocabulary : List Category} {out : Outcome}
    (h : out ∈ (compile o vocabulary).outcomes) : out.Graded := by
  obtain ⟨category, colour, declared, hout⟩ := mem_outcomes_compile h
  rw [hout]
  exact graded_outcome _ _ _ _ _

/-- The only error among what a graded outcome records is its failure. -/
lemma Outcome.Graded.filter_isError {out : Outcome} (h : out.Graded) :
    out.diagnostics.filter (·.isError) = out.failure?.toList := by
  have hw : out.warnings.filter (·.isError) = [] := by
    simpa [List.filter_eq_nil_iff] using h.warnings
  have hf : out.failure?.toList.filter (·.isError) = out.failure?.toList := by
    simpa [List.filter_eq_self] using h.failure
  rw [Outcome.diagnostics, List.filter_append, hw, hf, List.nil_append]

lemma Outcome.Graded.filter_not_isError {out : Outcome} (h : out.Graded) :
    out.diagnostics.filter (!·.isError) = out.warnings := by
  have hw : out.warnings.filter (!·.isError) = out.warnings := by
    simpa [List.filter_eq_self] using h.warnings
  have hf : out.failure?.toList.filter (!·.isError) = [] := by
    simpa [List.filter_eq_nil_iff] using h.failure
  rw [Outcome.diagnostics, List.filter_append, hw, hf, List.append_nil]

lemma filter_isError_diagnostics {outs : List Outcome} (h : ∀ out ∈ outs, out.Graded) :
    (outs.flatMap Outcome.diagnostics).filter (·.isError) = outs.filterMap Outcome.failure? := by
  induction outs with
  | nil => rfl
  | cons out outs ih =>
    rw [List.flatMap_cons, List.filter_append, (h out (by simp)).filter_isError,
      ih fun o ho => h o (by simp [ho])]
    rcases hr : out.failure? with _ | d <;> simp [hr]

lemma filter_not_isError_diagnostics {outs : List Outcome} (h : ∀ out ∈ outs, out.Graded) :
    (outs.flatMap Outcome.diagnostics).filter (!·.isError) = outs.flatMap (·.warnings) := by
  rw [List.filter_flatMap]
  exact List.flatMap_congr fun out hout => (h out hout).filter_not_isError

/-- **The diagnostics of a compile**: all warnings of the outcomes, and their first failures. -/
lemma diagnostics_compile (o : Options) (vocabulary : List Category) :
    (compile o vocabulary).diagnostics =
      { errors :=
          ((compile o vocabulary).outcomes.filterMap Outcome.failure?).take Diagnostics.limit
        warnings := (compile o vocabulary).outcomes.flatMap (·.warnings)
        totalErrors := ((compile o vocabulary).outcomes.filterMap Outcome.failure?).length
        totalWarnings := ((compile o vocabulary).outcomes.flatMap (·.warnings)).length } := by
  have hg : ∀ out ∈ (compile o vocabulary).outcomes, out.Graded := fun _ => graded_of_mem_outcomes
  rw [Compilation.diagnostics, Diagnostics.pushAll_eq, List.countP_eq_length_filter,
    List.countP_eq_length_filter, filter_isError_diagnostics hg, filter_not_isError_diagnostics hg]
  simp [Diagnostics.empty]

end BlockVocabulary
