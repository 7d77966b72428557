import BlockVocabulary.Proofs.Run

/-!
A declaration that fails leaves nothing behind but its diagnostics.

Taking the failing entries out of a vocabulary and compiling the rest gives the toolbox, the
descriptors and the registries of the whole vocabulary. The two runs are compared entry by entry:
a failing entry adds no name to those accepted, so at every entry that is kept both runs know the
same names and come to the same outcome.
-/

namespace BlockVocabulary

/-- Every entry of the vocabulary has its outcome, in its place. -/
def Compilation.Covers (c : Compilation) (vocabulary : List Category) : Prop :=
  c.categories.map (·.category) = vocabulary ∧
    ∀ cc ∈ c.categories, cc.outcomes.map (·.entry) = cc.category.entries

/-- The category with the entries that were accepted. -/
def CompiledCategory.survivors (cc : CompiledCategory) : Category :=
  { cc.category with entries := (cc.outcomes.filter Outcome.isAccepted).map (·.entry) }

/-- The vocabulary without the entries that failed; a category stays when none of its entries do. -/
def Compilation.survivors (c : Compilation) : List Category :=
  c.categories.map CompiledCategory.survivors

/-- The outcomes that are left when the entries that failed are taken out. -/
def CompiledCategory.restrict (cc : CompiledCategory) : CompiledCategory :=
  ⟨cc.survivors, cc.outcomes.filter Outcome.isAccepted⟩

/-! ### Every entry has its outcome -/

lemma compileEntries_entry (o : Options) (category colour : String) (accepted : List String)
    (es : List Entry) : (compileEntries o category colour accepted es).map (·.entry) = es := by
  induction es generalizing accepted with
  | nil => rfl
  | cons e es ih => simp [compileEntries, ih]

lemma covers_compile (o : Options) (vocabulary : List Category) :
    (compile o vocabulary).Covers vocabulary := by
  suffices h : ∀ accepted,
      (compileCategories o accepted vocabulary).map (·.category) = vocabulary ∧
        ∀ cc ∈ compileCategories o accepted vocabulary,
          cc.outcomes.map (·.entry) = cc.category.entries from h []
  induction vocabulary with
  | nil => intro accepted; exact ⟨rfl, by simp [compileCategories]⟩
  | cons c cs ih =>
    intro accepted
    obtain ⟨hc, he⟩ := ih (accepted ++ acceptedNames
      (compileEntries o c.name (visibleColour c.colour) accepted c.entries))
    refine ⟨by simp [compileCategories, hc], ?_⟩
    intro cc hcc
    rcases List.mem_cons.mp hcc with rfl | hcc
    · exact compileEntries_entry o c.name (visibleColour c.colour) accepted c.entries
    · exact he cc hcc

/-! ### The run on the survivors -/

lemma schema?_of_failed {out : Outcome} (h : out.isAccepted = false) : out.schema? = none := by
  simpa [Outcome.isAccepted] using h

lemma acceptedNames_of_failed {out : Outcome} (h : out.isAccepted = false) :
    acceptedNames [out] = [] := by
  simp [acceptedNames, schema?_of_failed h]

lemma acceptedNames_filter (outs : List Outcome) :
    acceptedNames (outs.filter Outcome.isAccepted) = acceptedNames outs := by
  induction outs with
  | nil => rfl
  | cons out outs ih =>
    have hcons : acceptedNames (out :: outs) = acceptedNames [out] ++ acceptedNames outs :=
      acceptedNames_append [out] outs
    rcases h : out.isAccepted
    · rw [List.filter_cons_of_neg (ne_true_of_eq_false h), ih, hcons, acceptedNames_of_failed h,
        List.nil_append]
    · rw [List.filter_cons_of_pos h, hcons, ← ih]
      exact acceptedNames_append [out] _

/-- In a category the same names are known at each entry that is kept, so its outcome is the
same. -/
lemma compileEntries_survivors (o : Options) (category colour : String) (accepted : List String)
    (es : List Entry) :
    compileEntries o category colour accepted
        (((compileEntries o category colour accepted es).filter Outcome.isAccepted).map (·.entry)) =
      (compileEntries o category colour accepted es).filter Outcome.isAccepted := by
  induction es generalizing accepted with
  | nil => rfl
  | cons e es ih =>
    rw [compileEntries]
    rcases h : (e.outcome o category colour (accepted.contains e.name)).isAccepted
    · rw [List.filter_cons_of_neg (ne_true_of_eq_false h), acceptedNames_of_failed h,
        List.append_nil, ih]
    · rw [List.filter_cons_of_pos h, List.map_cons, entry_outcome, compileEntries, ih]

lemma compileCategories_survivors (o : Options) (accepted : List String)
    (vocabulary : List Category) :
    compileCategories o accepted
        ((compileCategories o accepted vocabulary).map CompiledCategory.survivors) =
      (compileCategories o accepted vocabulary).map CompiledCategory.restrict := by
  induction vocabulary generalizing accepted with
  | nil => rfl
  | cons c cs ih =>
    have he := compileEntries_survivors o c.name (visibleColour c.colour) accepted c.entries
    rw [compileCategories, List.map_cons, List.map_cons, compileCategories]
    simp only [CompiledCategory.survivors, CompiledCategory.restrict] at ih ⊢
    rw [he, acceptedNames_filter, ih]

/-! ### What a failed outcome leaves out -/

lemma toolboxCategory_restrict (cc : CompiledCategory) :
    cc.restrict.toolboxCategory = cc.toolboxCategory := by
  have h : ∀ outs : List Outcome,
      (outs.filter Outcome.isAccepted).filterMap
          (fun out => out.schema?.map BlockReference.ofSchema) =
        outs.filterMap fun out => out.schema?.map BlockReference.ofSchema := by
    intro outs
    rw [List.filterMap_filter]
    congr 1
    funext out
    rcases hs : out.schema? with _ | s <;> simp [Outcome.isAccepted, hs]
  simp only [CompiledCategory.toolboxCategory, CompiledCategory.restrict,
    CompiledCategory.survivors, h]

lemma record_of_failed (r : Registries) {out : Outcome} (h : out.isAccepted = false) :
    r.record out = r := by
  simp [Registries.record, schema?_of_failed h]

lemma foldl_record_filter (r : Registries) (outs : List Outcome) :
    (outs.filter Outcome.isAccepted).foldl Registries.record r =
      outs.foldl Registries.record r := by
  induction outs generalizing r with
  | nil => rfl
  | cons out outs ih =>
    rcases h : out.isAccepted
    · rw [List.filter_cons_of_neg (ne_true_of_eq_false h), ih, List.foldl_cons,
        record_of_failed r h]
    · rw [List.filter_cons_of_pos h, List.foldl_cons, ih, List.foldl_cons]

lemma failure?_of_isAccepted {out : Outcome} (h : out.isAccepted = true) : out.failure? = none := by
  rwa [isAccepted_eq_isNone_failure?, Option.isNone_iff_eq_none] at h

/-- **Entries are compiled in isolation.** Compiling what is left of a vocabulary without its
failing entries gives the same toolbox, descriptors and registries, no errors, and the warnings that
the entries left had given rise to. -/
lemma survivors_alone (o : Options) (vocabulary : List Category) (r : Registries) :
    let c := compile o vocabulary
    let c' := compile o c.survivors
    c'.toolbox = c.toolbox ∧
    c'.descriptors? r = c.descriptors? r ∧
    c'.register r = c.register r ∧
    c'.diagnostics.errors = [] ∧ c'.diagnostics.totalErrors = 0 ∧
    c'.diagnostics.warnings = (c.outcomes.filter Outcome.isAccepted).flatMap (·.warnings) := by
  intro c c'
  have hcat : c'.categories = c.categories.map CompiledCategory.restrict :=
    compileCategories_survivors o [] vocabulary
  have hout : c'.outcomes = c.outcomes.filter Outcome.isAccepted := by
    simp [Compilation.outcomes, hcat, List.flatMap_map, List.filter_flatMap,
      CompiledCategory.restrict]
  have htool : c'.toolbox = c.toolbox := by
    have hopt : c'.options = c.options := rfl
    simp [Compilation.toolbox, hcat, hopt, toolboxCategory_restrict, Function.comp_def]
  have hreg : c'.register r = c.register r := by
    rw [Compilation.register, hout, foldl_record_filter, Compilation.register]
  have hfail : c'.outcomes.filterMap Outcome.failure? = [] := by
    rw [hout, List.filterMap_eq_nil_iff]
    intro out h
    exact failure?_of_isAccepted (List.mem_filter.mp h).2
  have hdiag := diagnostics_compile o c.survivors
  refine ⟨htool, ?_, hreg, ?_, ?_, ?_⟩
  · have hopt : c'.options = c.options := rfl
    simp only [Compilation.descriptors?, htool, hreg, hopt]
  all_goals rw [show c'.diagnostics = _ from hdiag]
  · exact congrArg (List.take _) hfail
  · exact congrArg List.length hfail
  · exact congrArg (List.flatMap (·.warnings)) hout

end BlockVocabulary
