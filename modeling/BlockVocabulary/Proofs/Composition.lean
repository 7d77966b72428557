import BlockVocabulary.Proofs.Descriptors

/-!
Compiling a vocabulary in parts.

All that a declaration learns from those before it is whether its name has been accepted. If two
vocabularies share no name, the second is judged alike with and without the first before it, and what
it registers touches nothing that the first has registered. So compiling both together is compiling
one after the other into the same registries.
-/

namespace BlockVocabulary

/-- The names of the entries of a vocabulary. -/
def entryNames (vocabulary : List Category) : List String :=
  vocabulary.flatMap fun c => c.entries.map (·.name)

/-! ### Judging with and without names accepted before -/

/-- An entry is judged on its own name only. -/
lemma compileEntries_accepted_congr (o : Options) (category colour : String)
    {accepted accepted' : List String} {es : List Entry}
    (h : ∀ n ∈ es.map (·.name), n ∈ accepted ↔ n ∈ accepted') :
    compileEntries o category colour accepted es =
      compileEntries o category colour accepted' es := by
  induction es generalizing accepted accepted' with
  | nil => rfl
  | cons e es ih =>
    rw [List.map_cons, List.forall_mem_cons] at h
    have hdeclared : accepted.contains e.name = accepted'.contains e.name := by
      rw [Bool.eq_iff_iff, List.contains_iff_mem, List.contains_iff_mem]
      exact h.1
    rw [compileEntries, compileEntries, hdeclared]
    refine congrArg _ (ih fun n hn => ?_)
    rw [List.mem_append, List.mem_append, h.2 n hn]

lemma compileCategories_accepted_congr (o : Options) {accepted accepted' : List String}
    {vocabulary : List Category} (h : ∀ n ∈ entryNames vocabulary, n ∈ accepted ↔ n ∈ accepted') :
    compileCategories o accepted vocabulary = compileCategories o accepted' vocabulary := by
  induction vocabulary generalizing accepted accepted' with
  | nil => rfl
  | cons c cs ih =>
    rw [entryNames, List.flatMap_cons, List.forall_mem_append] at h
    have hc := compileEntries_accepted_congr o c.name (visibleColour c.colour) h.1
    rw [compileCategories, compileCategories, hc]
    refine congrArg _ (ih fun n hn => ?_)
    rw [List.mem_append, List.mem_append, h.2 n hn]

/-- Of two parts the second knows the names that the first has accepted. -/
lemma compileCategories_append (o : Options) (accepted : List String) (A B : List Category) :
    compileCategories o accepted (A ++ B) = compileCategories o accepted A ++
      compileCategories o
        (accepted ++ acceptedNames ((compileCategories o accepted A).flatMap (·.outcomes))) B := by
  induction A generalizing accepted with
  | nil => simp [compileCategories, acceptedNames]
  | cons c cs ih =>
    rw [List.cons_append, compileCategories, ih, compileCategories, List.flatMap_cons,
      acceptedNames_append, List.append_assoc, List.cons_append]

/-- What is accepted are names of entries. -/
lemma names_subset_entryNames (o : Options) (vocabulary : List Category) :
    (compile o vocabulary).names ⊆ entryNames vocabulary := by
  intro n hn
  obtain ⟨hcategories, hentries⟩ := covers_compile o vocabulary
  obtain ⟨out, hout, hreg⟩ := (mem_acceptedNames_iff (fun _ => named_of_mem_outcomes) n).mp hn
  obtain ⟨cc, hcc, hmem⟩ := List.mem_flatMap.mp hout
  refine List.mem_flatMap.mpr ⟨cc.category, hcategories ▸ List.mem_map_of_mem hcc, ?_⟩
  rw [← hentries cc hcc, List.map_map]
  exact List.mem_map.mpr ⟨out, hmem, (registers_iff.mp hreg).2⟩

/-- Without built-in categories the toolbox mentions what is accepted. -/
lemma blockTypes_compile {o : Options} (hd : o.defaultCategories = false)
    (vocabulary : List Category) :
    (compile o vocabulary).toolbox.blockTypes = (compile o vocabulary).names := by
  have hoff : (compile o vocabulary).options.defaultCategories = false := hd
  have hbuiltins : (compile o vocabulary).builtins = [] := if_neg (ne_true_of_eq_false hoff)
  rw [blockTypes_toolbox, hbuiltins, List.append_nil]

/-! ### Two vocabularies without a common name -/

section

variable {o : Options} {A B : List Category} (h : ∀ n ∈ entryNames A, n ∉ entryNames B)

include h

lemma not_mem_names_of_mem {n : String} (hn : n ∈ (compile o A).names) :
    n ∉ (compile o B).names :=
  fun hB => h n (names_subset_entryNames o A hn) (names_subset_entryNames o B hB)

lemma categories_compile_append :
    (compile o (A ++ B)).categories = (compile o A).categories ++ (compile o B).categories := by
  refine (compileCategories_append o [] A B).trans (congrArg _ ?_)
  refine compileCategories_accepted_congr o fun n hn => ?_
  have hnot : n ∉ acceptedNames ((compileCategories o [] A).flatMap (·.outcomes)) :=
    fun hA => h n (names_subset_entryNames o A hA) hn
  simpa using hnot

lemma outcomes_compile_append :
    (compile o (A ++ B)).outcomes = (compile o A).outcomes ++ (compile o B).outcomes := by
  rw [Compilation.outcomes, categories_compile_append h, List.flatMap_append]
  rfl

lemma register_compile_append (r : Registries) :
    (compile o (A ++ B)).register r = (compile o B).register ((compile o A).register r) := by
  rw [Compilation.register, outcomes_compile_append h, List.foldl_append]
  rfl

lemma toolbox_compile_append (hd : o.defaultCategories = false) :
    (compile o (A ++ B)).toolbox =
      (compile o A).toolbox.extend (compile o B).toolbox.contents := by
  have hoff : ∀ V, (compile o V).options.defaultCategories = false := fun _ => hd
  simp only [Compilation.toolbox, Toolbox.assemble, Toolbox.extend, hoff,
    categories_compile_append h, List.map_append, Bool.false_eq_true, if_false, List.append_nil]

/-- The blocks of the first vocabulary are left as they are, and those of the second are not mentioned
by the first. -/
lemma registered_compile_append (hd : o.defaultCategories = false) (r : Registries) :
    (compile o (A ++ B)).toolbox.registered ((compile o (A ++ B)).register r).blocks =
      (compile o A).toolbox.registered ((compile o A).register r).blocks ++
        (compile o B).toolbox.registered
          ((compile o B).register ((compile o A).register r)).blocks := by
  rw [toolbox_compile_append h hd, register_compile_append h, registered_extend]
  refine congrArg₂ _ (registered_congr fun n hn => ?_) ?_
  · -- the second vocabulary does not register under a name of the first
    rw [blockTypes_compile hd] at hn
    exact (get?_register_of_not_mem (not_mem_names_of_mem h hn) _).1
  · -- the first vocabulary does not mention a name of the second
    have hall : (firsts (compile o B).toolbox.mentions).filter
        (·.1 ∉ (compile o A).toolbox.blockTypes) = firsts (compile o B).toolbox.mentions := by
      rw [List.filter_eq_self]
      intro m hm
      have hB := blockTypes_compile hd B ▸ mem_blockTypes_of_mem_firsts hm
      rw [blockTypes_compile hd, decide_eq_true_eq]
      exact fun hA => not_mem_names_of_mem h hA hB
    rw [hall, Toolbox.registered]

lemma diagnostics_compile_append :
    (compile o (A ++ B)).diagnostics =
      { errors := ((compile o A).diagnostics.errors ++
          (compile o B).diagnostics.errors).take Diagnostics.limit
        warnings := (compile o A).diagnostics.warnings ++ (compile o B).diagnostics.warnings
        totalErrors := (compile o A).diagnostics.totalErrors +
          (compile o B).diagnostics.totalErrors
        totalWarnings := (compile o A).diagnostics.totalWarnings +
          (compile o B).diagnostics.totalWarnings } := by
  have htake : ∀ (n : ℕ) (ds ds' : List Diagnostic),
      (ds ++ ds').take n = (ds.take n ++ ds'.take n).take n := by
    intro n ds ds'
    rw [List.take_append, List.take_append, List.take_take, List.take_take, List.length_take,
      Nat.min_self]
    congr 2
    omega
  simp only [diagnostics_compile, outcomes_compile_append h, List.filterMap_append,
    List.flatMap_append, List.length_append]
  rw [htake]

end

/-- **A vocabulary can be compiled in parts.** If two vocabularies share no name and no built-in
categories are wanted, compiling both together is compiling the first and then the second into the
same registries: the toolboxes, the descriptors, the warnings and the counts add up, the first errors
of both are kept, and the registries end alike. -/
theorem compile_append {o : Options} (hd : o.defaultCategories = false) {A B : List Category}
    (h : ∀ n ∈ entryNames A, n ∉ entryNames B) (r : Registries) :
    let both := compile o (A ++ B)
    let first := compile o A
    let second := compile o B
    both.toolbox.contents = first.toolbox.contents ++ second.toolbox.contents ∧
    (o.vocabulary = true → ∃ ds ds', first.descriptors? r = some ds ∧
      second.descriptors? (first.register r) = some ds' ∧
      both.descriptors? r = some (ds ++ ds')) ∧
    both.diagnostics =
      { errors := (first.diagnostics.errors ++ second.diagnostics.errors).take 20
        warnings := first.diagnostics.warnings ++ second.diagnostics.warnings
        totalErrors := first.diagnostics.totalErrors + second.diagnostics.totalErrors
        totalWarnings := first.diagnostics.totalWarnings + second.diagnostics.totalWarnings } ∧
    both.register r = second.register (first.register r) := by
  intro both first second
  refine ⟨congrArg Toolbox.contents (toolbox_compile_append h hd), fun hv => ?_,
    diagnostics_compile_append h, register_compile_append h r⟩
  have hds : both.toolbox.descriptors (both.register r).blocks =
      first.toolbox.descriptors (first.register r).blocks ++
        second.toolbox.descriptors (second.register (first.register r)).blocks :=
    (congrArg _ (registered_compile_append h hd r)).trans List.map_append
  exact ⟨_, _, if_pos hv, if_pos hv, (if_pos hv).trans (congrArg some hds)⟩

theorem compile_append_redeclared :
    let both := compile { vocabulary := true } (redeclared ++ sharedName)
    both.diagnostics.totalErrors = 2 ∧
    (∃ ds, both.descriptors? .empty = some ds ∧ ds.map (·.name) = ["repeat", "count"]) ∧
    both.register .empty = (compile { vocabulary := true } sharedName).register
      ((compile { vocabulary := true } redeclared).register .empty) := by
  intro both
  obtain ⟨-, hdescriptors, hdiagnostics, hregister⟩ :=
    compile_append (o := { vocabulary := true }) rfl (A := redeclared) (B := sharedName)
      (by decide) .empty
  obtain ⟨ds, ds', hds, hds', hboth⟩ := hdescriptors rfl
  refine ⟨?_, ⟨_, hboth, ?_⟩, hregister⟩
  · rw [show both.diagnostics = _ from hdiagnostics]
    decide
  · obtain rfl := Option.some.inj hds
    obtain rfl := Option.some.inj hds'
    decide

end BlockVocabulary
