import BlockVocabulary.Proofs.Relaxation
import BlockVocabulary.Proofs.UnknownFields

/-!
Where the policies agree.

A policy has a say in a declaration only if an element of it is no known field or if a name comes a
second time. All other declarations are regular; they have one outcome under all policies, and no
warning. The strictest policies accept regular declarations only, and the most lenient ones accept
any other with a warning. So a vocabulary that compiles without errors under the former is one that
compiles without errors and warnings under the latter, and it compiles to the same under all.
-/

namespace BlockVocabulary

/-- The policies have no say in the declaration. -/
structure Entry.IsRegular (declared : Bool) (e : Entry) : Prop where
  undeclared : declared = false
  recognized : ∀ f ∈ e.template, f.isRecognized = true
  distinct : ((slots e.template).map (·.name)).Nodup

/-! ### Regular declarations -/

lemma layoutWarnings_eq_nil_iff {o : LayoutOptions} {e : Entry} {l : Layout}
    (h : layOut o e.template = .ok l) (p : DuplicatePolicy) (origin : Origin) (declared : Bool) :
    p.layoutWarnings origin declared l = [] ↔
      (∀ f ∈ e.template, f.isRecognized = true) ∧
        (p = .warn → declared = false ∧ ((slots e.template).map (·.name)).Nodup) := by
  rw [DuplicatePolicy.layoutWarnings, List.append_eq_nil_iff, List.append_eq_nil_iff,
    List.map_eq_nil_iff, skipped_layOut h, unknownPositions_eq_nil_iff,
    ← (layOut_content h).2.2.2, ← repeats_eq_nil_iff]
  cases p <;> simp [DuplicatePolicy.nameWarnings, DuplicatePolicy.connectionWarnings]
  tauto

/-- **What becomes of a regular declaration depends on its template and its output alone.** -/
lemma outcome_of_isRegular {declared : Bool} {e : Entry} (h : e.IsRegular declared) (o : Options)
    (category colour : String) :
    e.outcome o category colour declared = ⟨e, [], do
      let l ← (layOut o.toLayoutOptions e.template).mapError (·.diagnostic (e.origin category))
      (e.assemble colour l.rows).mapError (·.diagnostic (e.origin category))⟩ := by
  have hv := verdict_outcome o category colour declared e
  have hwarn : ∀ l, layOut o.toLayoutOptions e.template = .ok l →
      o.duplicates.layoutWarnings (e.origin category) declared l = [] := fun l hl =>
    (layoutWarnings_eq_nil_iff hl _ _ _).mpr ⟨h.recognized, fun _ => ⟨h.undeclared, h.distinct⟩⟩
  generalize e.outcome o category colour declared = out at hv ⊢
  cases hv with
  | declaredBefore _ hd =>
    rw [h.undeclared] at hd
    cases hd
  | noLayout _ hl =>
    rw [hl, h.undeclared]
    cases o.duplicates <;> rfl
  | repeatedConnection _ _ hl hr =>
    have hd := h.distinct
    rw [← (layOut_content hl).2.2.2, ← repeats_eq_nil_iff, hr] at hd
    cases hd
  | noShape _ hl _ ha => simp [hwarn _ hl, hl, ha, Except.mapError, bind, Except.bind]
  | accepted _ hl _ ha => simp [hwarn _ hl, hl, ha, Except.mapError, bind, Except.bind]

/-- Under options that differ in the policies only a regular declaration has the same outcome. -/
lemma outcome_under_of_isRegular {declared : Bool} {e : Entry} (h : e.IsRegular declared)
    (o : Options) (p p' : UnknownFieldPolicy) (q q' : DuplicatePolicy) (category colour : String) :
    e.outcome (o.under p q) category colour declared =
      e.outcome (o.under p' q') category colour declared := by
  have hl : layOut (o.under p q).toLayoutOptions e.template =
      layOut (o.under p' q').toLayoutOptions e.template := layOut_congr h.recognized rfl
  rw [outcome_of_isRegular h, outcome_of_isRegular h, hl]

/-! ### Which outcomes show that a declaration is regular -/

/-- Nothing went wrong, and nothing was questionable. -/
def Outcome.isClean (out : Outcome) : Bool := out.isAccepted && out.warnings.isEmpty

lemma isRecognized_of_templateFaults {template : List Field} {index : ℕ}
    (h : templateFaults .failFast index template = []) : ∀ f ∈ template, f.isRecognized = true := by
  induction template generalizing index with
  | nil => simp
  | cons f fs ih =>
    rw [templateFaults_cons, List.append_eq_nil_iff] at h
    refine List.forall_mem_cons.mpr ⟨?_, ih h.2⟩
    cases f with
    | unrecognized v => cases h.1
    | _ => rfl

/-- The strictest policies accept regular declarations only. -/
lemma isRegular_of_isAccepted {o : Options} {category colour : String} {declared : Bool} {e : Entry}
    (h : (e.outcome (o.under .failFast .strict) category colour declared).isAccepted = true) :
    e.IsRegular declared := by
  rw [isAccepted_outcome, List.isEmpty_iff, Entry.faults, List.append_eq_nil_iff,
    List.append_eq_nil_iff, List.append_eq_nil_iff] at h
  obtain ⟨hname, hfields, hconnections, -⟩ := h
  exact ⟨by simpa [nameFaults, Options.under] using hname, isRecognized_of_templateFaults hfields,
    by simpa [connectionFaults, Options.under] using hconnections⟩

/-- What the strictest policies accept they accept without a warning. -/
lemma isClean_of_isAccepted {o : Options} {category colour : String} {declared : Bool} {e : Entry}
    (h : (e.outcome (o.under .failFast .strict) category colour declared).isAccepted = true) :
    (e.outcome (o.under .failFast .strict) category colour declared).isClean = true := by
  rw [Outcome.isClean, h, outcome_of_isRegular (isRegular_of_isAccepted h)]
  rfl

/-- The most lenient policies accept any other declaration with a warning. -/
lemma isRegular_of_isClean {o : Options} {category colour : String} {declared : Bool} {e : Entry}
    (h : (e.outcome (o.under .permissive .warn) category colour declared).isClean = true) :
    e.IsRegular declared := by
  have hv := verdict_outcome (o.under .permissive .warn) category colour declared e
  generalize e.outcome (o.under .permissive .warn) category colour declared = out at hv h
  cases hv with
  | accepted _ hl _ _ =>
    have hw := List.isEmpty_iff.mp (Bool.and_eq_true_iff.mp h).2
    obtain ⟨hrecognized, hnames⟩ := (layoutWarnings_eq_nil_iff hl _ _ _).mp hw
    exact ⟨(hnames rfl).1, hrecognized, (hnames rfl).2⟩
  | _ => cases h

/-! ### Two compiles -/

/-- Whenever the first options lead to an outcome with the property, the second ones lead to the same
outcome. -/
def Options.AgreesWhere (o o' : Options) (P : Outcome → Prop) : Prop :=
  ∀ category colour declared (e : Entry), P (e.outcome o category colour declared) →
    e.outcome o' category colour declared = e.outcome o category colour declared

section

variable {o o' : Options} {P : Outcome → Prop}

lemma compileEntries_congr (h : o.AgreesWhere o' P) {category colour : String}
    {accepted : List String} {es : List Entry}
    (hall : ∀ out ∈ compileEntries o category colour accepted es, P out) :
    compileEntries o' category colour accepted es =
      compileEntries o category colour accepted es := by
  induction es generalizing accepted with
  | nil => rfl
  | cons e es ih =>
    rw [compileEntries] at hall
    obtain ⟨hout, hrest⟩ := List.forall_mem_cons.mp hall
    rw [compileEntries, compileEntries, h _ _ _ e hout, ih hrest]

lemma compileCategories_congr (h : o.AgreesWhere o' P) {accepted : List String}
    {vocabulary : List Category}
    (hall : ∀ cc ∈ compileCategories o accepted vocabulary, ∀ out ∈ cc.outcomes, P out) :
    compileCategories o' accepted vocabulary = compileCategories o accepted vocabulary := by
  induction vocabulary generalizing accepted with
  | nil => rfl
  | cons c cs ih =>
    rw [compileCategories] at hall
    obtain ⟨hc, hcs⟩ := List.forall_mem_cons.mp hall
    rw [compileCategories, compileCategories, compileEntries_congr h hc]
    exact congrArg (_ :: ·) (ih hcs)

/-- **If all outcomes of a compile have the property, the other compile has the same outcomes.** -/
lemma categories_compile_congr (h : o.AgreesWhere o' P) {vocabulary : List Category}
    (hall : ∀ out ∈ (compile o vocabulary).outcomes, P out) :
    (compile o' vocabulary).categories = (compile o vocabulary).categories :=
  compileCategories_congr h fun cc hcc out hout =>
    hall out (List.mem_flatMap.mpr ⟨cc, hcc, hout⟩)

end

lemma agreesWhere_isAccepted (o : Options) (p : UnknownFieldPolicy) (q : DuplicatePolicy) :
    (o.under .failFast .strict).AgreesWhere (o.under p q) fun out => out.isAccepted = true :=
  fun _ _ _ _ h => outcome_under_of_isRegular (isRegular_of_isAccepted h) _ _ _ _ _ _ _

lemma agreesWhere_isClean (o : Options) (p : UnknownFieldPolicy) (q : DuplicatePolicy) :
    (o.under .permissive .warn).AgreesWhere (o.under p q) fun out => out.isClean = true :=
  fun _ _ _ _ h => outcome_under_of_isRegular (isRegular_of_isClean h) _ _ _ _ _ _ _

/-! ### Clean compiles -/

/-- There is no error and no warning exactly if every outcome is clean. -/
lemma forall_isClean_iff (o : Options) (vocabulary : List Category) :
    ((compile o vocabulary).succeeded = true ∧
        (compile o vocabulary).diagnostics.hasWarnings = false) ↔
      ∀ out ∈ (compile o vocabulary).outcomes, out.isClean = true := by
  have hwarn : (compile o vocabulary).diagnostics.hasWarnings = false ↔
      ∀ out ∈ (compile o vocabulary).outcomes, out.warnings = [] := by
    rw [Diagnostics.hasWarnings, diagnostics_compile, decide_eq_false_iff_not, Nat.not_lt,
      Nat.le_zero, List.length_eq_zero_iff, List.flatMap_eq_nil_iff]
  rw [succeeded_iff, hwarn, ← forall₂_and]
  simp [Outcome.isClean]

lemma diagnostics_of_isClean {o : Options} {vocabulary : List Category}
    (h : ∀ out ∈ (compile o vocabulary).outcomes, out.isClean = true) :
    (compile o vocabulary).diagnostics = Diagnostics.empty := by
  have hf : (compile o vocabulary).outcomes.filterMap Outcome.failure? = [] := by
    rw [List.filterMap_eq_nil_iff]
    exact fun out hout => failure?_of_isAccepted (Bool.and_eq_true_iff.mp (h out hout)).1
  have hw : (compile o vocabulary).outcomes.flatMap (·.warnings) = [] := by
    rw [List.flatMap_eq_nil_iff]
    exact fun out hout => List.isEmpty_iff.mp (Bool.and_eq_true_iff.mp (h out hout)).2
  rw [diagnostics_compile, hf, hw]
  rfl

/-- Compiles with the same outcomes have the same toolbox, descriptors and registries if the options
that do not concern the outcomes are the same. -/
lemma results_congr {c c' : Compilation} (hcat : c.categories = c'.categories)
    (hdefaults : c.options.defaultCategories = c'.options.defaultCategories)
    (hvocabulary : c.options.vocabulary = c'.options.vocabulary) (r : Registries) :
    c.toolbox = c'.toolbox ∧ c.descriptors? r = c'.descriptors? r ∧
      c.register r = c'.register r := by
  have htool : c.toolbox = c'.toolbox := by
    rw [Compilation.toolbox, hcat, hdefaults, Compilation.toolbox]
  have hreg : c.register r = c'.register r := by
    rw [Compilation.register, Compilation.outcomes, hcat]
    rfl
  refine ⟨htool, ?_, hreg⟩
  rw [Compilation.descriptors?, htool, hreg, hvocabulary, Compilation.descriptors?]

/-- Where the strictest policies accept everything, all policies come to the same clean outcomes. -/
lemma outcomes_of_strictest {o : Options} {vocabulary : List Category}
    (h : (compile (o.under .failFast .strict) vocabulary).succeeded = true)
    (p : UnknownFieldPolicy) (q : DuplicatePolicy) :
    (compile (o.under p q) vocabulary).categories =
        (compile (o.under .failFast .strict) vocabulary).categories ∧
      ∀ out ∈ (compile (o.under p q) vocabulary).outcomes, out.isClean = true := by
  have hall := (succeeded_iff _ vocabulary).mp h
  have hcat := categories_compile_congr (agreesWhere_isAccepted o p q) hall
  refine ⟨hcat, fun out hout => ?_⟩
  rw [Compilation.outcomes, hcat] at hout
  obtain ⟨category, colour, declared, heq⟩ := mem_outcomes_compile hout
  rw [heq]
  exact isClean_of_isAccepted (heq ▸ hall out hout)

/-- Where the most lenient policies have nothing to report, the strictest accept everything. -/
lemma succeeded_of_lenient {o : Options} {vocabulary : List Category}
    (h : ∀ out ∈ (compile (o.under .permissive .warn) vocabulary).outcomes, out.isClean = true) :
    (compile (o.under .failFast .strict) vocabulary).succeeded = true := by
  have hcat := categories_compile_congr (agreesWhere_isClean o .failFast .strict) h
  rw [succeeded_iff, Compilation.outcomes, hcat]
  exact fun out hout => (Bool.and_eq_true_iff.mp (h out hout)).1

/-- **The policies agree on clean vocabularies.** A vocabulary compiles without errors and warnings
under the most lenient policies exactly if it compiles without errors under the strictest, and then
all policies lead to the same toolbox, descriptors and registries and to no diagnostics. -/
theorem compile_under_policies (o : Options) (vocabulary : List Category) (r : Registries) :
    let run := fun p q => compile (o.under p q) vocabulary
    ((run .permissive .warn).succeeded = true ∧
        (run .permissive .warn).diagnostics.hasWarnings = false ↔
      (run .failFast .strict).succeeded = true) ∧
    ((run .failFast .strict).succeeded = true → ∀ p q,
      (run p q).toolbox = (run .failFast .strict).toolbox ∧
      (run p q).descriptors? r = (run .failFast .strict).descriptors? r ∧
      (run p q).diagnostics = Diagnostics.empty ∧
      (run p q).register r = (run .failFast .strict).register r) := by
  intro run
  refine ⟨⟨fun h => ?_, fun h => ?_⟩, fun h p q => ?_⟩
  · exact succeeded_of_lenient ((forall_isClean_iff _ vocabulary).mp h)
  · exact (forall_isClean_iff _ vocabulary).mpr (outcomes_of_strictest h .permissive .warn).2
  · obtain ⟨hcat, hclean⟩ := outcomes_of_strictest h p q
    obtain ⟨htool, hdescriptors, hreg⟩ := results_congr hcat rfl rfl r
    exact ⟨htool, hdescriptors, diagnostics_of_isClean hclean, hreg⟩

/-- Two blocks that leave the policies nothing to decide. -/
def counting : List Category :=
  [{ name := "Loops", colour := "#ff0000",
     entries :=
      [{ name := "repeat",
         template :=
          [.text "repeat\n", .connection { tag := some "number", name := "TIMES", shadow := some "ten" },
            .connection { tag := some "void", name := "DO" }] },
        { name := "ten", template := [.text "10"], output := some { tag := some "number" } }] }]

theorem compile_under_policies_counting :
    let run := fun p q => compile (Options.under { vocabulary := true } p q) counting
    (run .failFast .strict).succeeded = true ∧
    (run .permissive .warn).diagnostics.hasWarnings = false ∧
    (run .permissive .warn).diagnostics = Diagnostics.empty ∧
    (run .permissive .warn).register .empty = (run .failFast .strict).register .empty := by
  intro run
  have hrun : (run .failFast .strict).succeeded = true := by decide
  obtain ⟨hiff, hsame⟩ := compile_under_policies { vocabulary := true } counting .empty
  obtain ⟨-, -, hempty, hreg⟩ := hsame hrun .permissive .warn
  exact ⟨hrun, (hiff.mpr hrun).2, hempty, hreg⟩

end BlockVocabulary
