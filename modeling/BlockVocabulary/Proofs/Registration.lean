import BlockVocabulary.Proofs.Run
import Mathlib.Data.List.Induction

/-!
What the registries hold after a compile.

Of the declarations of a name that were accepted the last one owns the name: its schema and its
generator are found under it, and both are of the same declaration. Under the strict policy there
is at most one, the first declaration of the name that is in order.
-/

namespace BlockVocabulary

/-- The outcome registers a block of the given name. -/
def Outcome.registers (n : String) (out : Outcome) : Bool :=
  out.isAccepted && decide (out.entry.name = n)

/-- A schema goes by the name of its entry. -/
def Outcome.Named (out : Outcome) : Prop := ∀ s ∈ out.schema?, s.type = out.entry.name

/-- The declarations of a name that were accepted, in order. -/
def Compilation.acceptedOf (c : Compilation) (n : String) : List (Category × Outcome) :=
  c.judged.filter (·.2.registers n)

lemma named_outcome (o : Options) (category colour : String) (declared : Bool) (e : Entry) :
    (e.outcome o category colour declared).Named := by
  intro s hs
  rw [entry_outcome]
  exact type_of_schema?_outcome hs

/-! ### One outcome -/

lemma registers_iff {n : String} {out : Outcome} :
    out.registers n = true ↔ out.isAccepted = true ∧ out.entry.name = n := by
  simp [Outcome.registers]

/-- An outcome that registers a name is found under it, and any other leaves the name alone. -/
lemma get?_record (r : Registries) (n : String) {out : Outcome} (h : out.Named) :
    (r.record out).blocks.get? n = (if out.registers n then out.schema? else r.blocks.get? n) ∧
    (r.record out).generators.get? n =
      (if out.registers n then some out.entry.generator else r.generators.get? n) := by
  rcases hs : out.schema? with _ | s
  · simp [Registries.record, Outcome.registers, Outcome.isAccepted, hs]
  · have ht : s.type = out.entry.name := h s hs
    by_cases hn : out.entry.name = n
    · subst hn
      simp [Registries.record, Registries.addBlock, Registries.addGenerator, Outcome.registers,
        Outcome.isAccepted, hs, ht]
    · have hne : n ≠ s.type := fun h => hn (by rw [← ht, h])
      have hne' : n ≠ out.entry.name := fun h => hn h.symm
      simp [Registries.record, Registries.addBlock, Registries.addGenerator, Outcome.registers,
        Outcome.isAccepted, hs, hn, Table.get?_insert_of_ne _ _ hne,
        Table.get?_insert_of_ne _ _ hne']

/-! ### All outcomes -/

/-- **The last outcome that registers a name owns it.** -/
lemma get?_foldl_record (r : Registries) (n : String) {outs : List Outcome}
    (h : ∀ out ∈ outs, out.Named) :
    (outs.foldl Registries.record r).blocks.get? n =
      (outs.filter (·.registers n)).getLast?.elim (r.blocks.get? n) Outcome.schema? ∧
    (outs.foldl Registries.record r).generators.get? n =
      (outs.filter (·.registers n)).getLast?.elim (r.generators.get? n)
        fun out => some out.entry.generator := by
  induction outs using List.reverseRecOn with
  | nil => exact ⟨rfl, rfl⟩
  | append_singleton outs out ih =>
    have hstep := get?_record (outs.foldl Registries.record r) n (h out (by simp))
    have ih' := ih fun o ho => h o (by simp [ho])
    rw [List.foldl_append, List.foldl_cons, List.foldl_nil, List.filter_append]
    by_cases hr : out.registers n = true
    · simp [hstep, hr]
    · simp [hstep, ih', hr]

/-! ### The strict policy -/

lemma acceptedNames_outcome (o : Options) (category colour : String) (declared : Bool) (e : Entry) :
    acceptedNames [e.outcome o category colour declared] =
      if (e.outcome o category colour declared).isAccepted then [e.name] else [] := by
  rcases hs : (e.outcome o category colour declared).schema? with _ | s
  · simp [acceptedNames, Outcome.isAccepted, hs]
  · simp [acceptedNames, Outcome.isAccepted, hs, type_of_schema?_outcome hs]

/-- The declaration is one of the name and in order. -/
def isSound (o : LayoutOptions) (n : String) (d : Category × Outcome) : Bool :=
  decide (d.2.entry.name = n) && d.2.entry.inOrder o

/-- Once a name is accepted no declaration of it is; before, the first that is in order will be. -/
lemma filter_registers_judge_of_strict {o : Options} (hp : o.duplicates = .strict) (n : String)
    (accepted : List String) (ds : List (Category × Entry)) :
    (judge o accepted ds).filter (·.2.registers n) =
      if n ∈ accepted then []
      else ((judge o accepted ds).find? (isSound o.toLayoutOptions n)).toList := by
  induction ds generalizing accepted with
  | nil => simp [judge]
  | cons d ds ih =>
    obtain ⟨c, e⟩ := d
    have hentry := entry_outcome o c.name (visibleColour c.colour) (accepted.contains e.name) e
    have hacc := isAccepted_outcome_of_strict hp c.name (visibleColour c.colour)
      (accepted.contains e.name) e
    have hnames := acceptedNames_outcome o c.name (visibleColour c.colour)
      (accepted.contains e.name) e
    rw [judge]
    generalize e.outcome o c.name (visibleColour c.colour) (accepted.contains e.name) = out
      at hentry hacc hnames ⊢
    by_cases hn : e.name = n
    · subst hn
      by_cases hmem : e.name ∈ accepted
      · -- the name is taken
        have hr : ¬out.registers e.name = true := by simp [Outcome.registers, hacc, hmem]
        rw [List.filter_cons_of_neg (by simpa using hr), ih, if_pos (by simp [hmem]), if_pos hmem]
      · by_cases ho : e.inOrder o.toLayoutOptions = true
        · -- this declaration takes it
          have hr : out.registers e.name = true := by
            simp [Outcome.registers, hacc, hentry, hmem, ho]
          have hs : isSound o.toLayoutOptions e.name (c, out) = true := by
            simp [isSound, hentry, ho]
          have htaken : e.name ∈ accepted ++ acceptedNames [out] := by
            simp [hnames, hacc, hmem, ho]
          rw [List.filter_cons_of_pos (by simpa using hr), ih, if_pos htaken, if_neg hmem,
            List.find?_cons_of_pos hs]
          rfl
        · -- the name stays free
          have hr : ¬out.registers e.name = true := by simp [Outcome.registers, hacc, ho]
          have hs : ¬isSound o.toLayoutOptions e.name (c, out) = true := by
            simp [isSound, hentry, ho]
          have hfree : e.name ∉ accepted ++ acceptedNames [out] := by
            simp [hnames, hacc, hmem, ho]
          rw [List.filter_cons_of_neg (by simpa using hr), ih, if_neg hfree, if_neg hmem,
            List.find?_cons_of_neg hs]
    · -- a declaration of another name changes nothing for `n`
      have hr : ¬out.registers n = true := by simp [Outcome.registers, hentry, hn]
      have hs : ¬isSound o.toLayoutOptions n (c, out) = true := by simp [isSound, hentry, hn]
      have hsame : n ∈ accepted ++ acceptedNames [out] ↔ n ∈ accepted := by
        rw [hnames]
        split <;> simp [Ne.symm hn]
      rw [List.filter_cons_of_neg (by simpa using hr), ih, List.find?_cons_of_neg hs]
      simp only [hsame]

/-! ### A compile -/

/-- Under the name stand the schema and the generator of this declaration, in the colour of its
category. -/
structure Registries.Holds (r : Registries) (o : LayoutOptions) (n : String)
    (d : Category × Entry) : Prop where
  name : d.2.name = n
  schema : ∃ l shape, layOut o d.2.template = .ok l ∧ d.2.shape = .ok shape ∧
    r.blocks.get? n = some
      { type := n, rows := l.rows, shape := shape, inputsInline := d.2.inputsInline
        tooltip := d.2.description, colour := visibleColour d.1.colour, hooks := d.2.hooks }
  generator : r.generators.get? n = some d.2.generator

lemma getLast?_filter_outcomes (c : Compilation) (n : String) :
    (c.outcomes.filter (·.registers n)).getLast? = (c.acceptedOf n).getLast?.map (·.2) := by
  rw [outcomes_eq_judged, List.filter_map, List.getLast?_map]
  rfl

lemma named_of_mem_outcomes {o : Options} {vocabulary : List Category} {out : Outcome}
    (h : out ∈ (compile o vocabulary).outcomes) : out.Named := by
  obtain ⟨category, colour, declared, hout⟩ := mem_outcomes_compile h
  rw [hout]
  exact named_outcome _ _ _ _ _

/-- What is found under a name after a compile. -/
lemma get?_register (o : Options) (vocabulary : List Category) (r : Registries) (n : String) :
    ((compile o vocabulary).register r).blocks.get? n =
      ((compile o vocabulary).outcomes.filter (·.registers n)).getLast?.elim (r.blocks.get? n)
        Outcome.schema? ∧
    ((compile o vocabulary).register r).generators.get? n =
      ((compile o vocabulary).outcomes.filter (·.registers n)).getLast?.elim (r.generators.get? n)
        fun out => some out.entry.generator :=
  get?_foldl_record r n fun _ => named_of_mem_outcomes

/-- The accepted names are those of the entries that were accepted. -/
lemma acceptedNames_eq_map {outs : List Outcome} (h : ∀ out ∈ outs, out.Named) :
    acceptedNames outs = (outs.filter Outcome.isAccepted).map (·.entry.name) := by
  induction outs with
  | nil => rfl
  | cons out outs ih =>
    have ih' := ih fun o ho => h o (by simp [ho])
    rw [acceptedNames] at ih' ⊢
    rcases hs : out.schema? with _ | s
    · simp [hs, Outcome.isAccepted, ih']
    · simp [hs, Outcome.isAccepted, ih', h out (by simp) s hs]

lemma mem_acceptedNames_iff {outs : List Outcome} (h : ∀ out ∈ outs, out.Named) (n : String) :
    n ∈ acceptedNames outs ↔ ∃ out ∈ outs, out.registers n = true := by
  simp [acceptedNames_eq_map h, registers_iff, and_assoc]

/-- An accepted name belongs to one of the outcomes, whatever the registries held before. -/
lemma get?_register_of_mem {o : Options} {vocabulary : List Category} {n : String}
    (h : n ∈ (compile o vocabulary).names) :
    ∃ out ∈ (compile o vocabulary).outcomes, out.registers n = true ∧ ∀ r : Registries,
      ((compile o vocabulary).register r).blocks.get? n = out.schema? ∧
      ((compile o vocabulary).register r).generators.get? n = some out.entry.generator := by
  obtain ⟨out, hout, hr⟩ := (mem_acceptedNames_iff (fun _ => named_of_mem_outcomes) n).mp h
  have hmem : out ∈ (compile o vocabulary).outcomes.filter (·.registers n) :=
    List.mem_filter.mpr ⟨hout, hr⟩
  obtain ⟨last, hlast⟩ := Option.isSome_iff_exists.mp
    (List.getLast?_isSome.mpr (List.ne_nil_of_mem hmem))
  obtain ⟨hlmem, hlr⟩ := List.mem_filter.mp (List.mem_of_getLast? hlast)
  refine ⟨last, hlmem, hlr, fun r => ?_⟩
  have hget := get?_register o vocabulary r n
  rwa [hlast] at hget

/-- All other names keep what they had. -/
lemma get?_register_of_not_mem {o : Options} {vocabulary : List Category} {n : String}
    (h : n ∉ (compile o vocabulary).names) (r : Registries) :
    ((compile o vocabulary).register r).blocks.get? n = r.blocks.get? n ∧
    ((compile o vocabulary).register r).generators.get? n = r.generators.get? n := by
  have hnil : (compile o vocabulary).outcomes.filter (·.registers n) = [] := by
    rw [List.filter_eq_nil_iff]
    exact fun out hout hr =>
      h ((mem_acceptedNames_iff (fun _ => named_of_mem_outcomes) n).mpr ⟨out, hout, hr⟩)
  have hget := get?_register o vocabulary r n
  rwa [hnil] at hget

/-- Two categories that declare one name, each with a declaration of it that fails. -/
def sharedName : List Category :=
  [{ name := "Loops", colour := "#ff0000",
     entries :=
      [{ name := "count", template := [.unrecognized .null] },
        { name := "count", description := "first", template := [.text "count"] }] },
    { name := "Lists", colour := " ",
      entries :=
        [{ name := "count", description := "second", template := [.text "count of"] },
          { name := "count", output := some { tag := some "void", name := "N" } }] }]

end BlockVocabulary
