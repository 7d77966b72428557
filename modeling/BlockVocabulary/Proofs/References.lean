import BlockVocabulary.Proofs.DefaultChildren
import BlockVocabulary.Proofs.Isolation
import BlockVocabulary.Proofs.LayoutContent
import BlockVocabulary.Proofs.Registration

/-!
What the references of a toolbox say about the registered blocks.

A reference is made of the schema of its own declaration, and for every connection name it carries
the last default child declared under the name. The schema found under its type afterwards is that
of the last declaration that was accepted, and an input is looked up at the first row of its name.
So a reference and the registered schema agree where nothing is declared twice.
-/

namespace BlockVocabulary

/-! ### The references of a compile -/

/-- The reference to an accepted block. -/
def Outcome.reference? (out : Outcome) : Option BlockReference :=
  out.schema?.map BlockReference.ofSchema

/-- The references of the categories that were compiled. -/
def Compilation.references (c : Compilation) : List BlockReference :=
  c.outcomes.filterMap Outcome.reference?

/-- A category of the toolbox refers to the accepted entries. -/
lemma blockTypes_toolboxCategory (cc : CompiledCategory) :
    cc.toolboxCategory.blockTypes = acceptedNames cc.outcomes := by
  have h : ∀ outs : List Outcome,
      (outs.filterMap fun out => out.schema?.map BlockReference.ofSchema).map (·.type) =
        acceptedNames outs := by
    intro outs
    rw [List.map_filterMap, acceptedNames]
    congr 1
    funext out
    rcases out.schema? with _ | s <;> simp
  exact h cc.outcomes

/-- The first categories of the toolbox are those of the vocabulary. -/
lemma take_contents_toolbox (o : Options) (vocabulary : List Category) :
    (compile o vocabulary).toolbox.contents.take vocabulary.length =
      (compile o vocabulary).categories.map CompiledCategory.toolboxCategory := by
  have hlen : ((compile o vocabulary).categories.map CompiledCategory.toolboxCategory).length =
      vocabulary.length := by
    rw [List.length_map, ← List.length_map (f := (·.category)), (covers_compile o vocabulary).1]
  rw [Compilation.toolbox, Toolbox.assemble, ← hlen, List.take_left]

lemma references_toolbox (o : Options) (vocabulary : List Category) :
    ((compile o vocabulary).toolbox.contents.take vocabulary.length).flatMap (·.contents) =
      (compile o vocabulary).references := by
  rw [take_contents_toolbox, List.flatMap_map, Compilation.references, Compilation.outcomes,
    List.filterMap_flatMap]
  rfl

/-- The references of a type are made by the outcomes that register it. -/
lemma filter_references {outs : List Outcome} (h : ∀ out ∈ outs, out.Named) (n : String) :
    (outs.filterMap Outcome.reference?).filter (·.type = n) =
      (outs.filter (·.registers n)).filterMap Outcome.reference? := by
  induction outs with
  | nil => rfl
  | cons out outs ih =>
    have ih' := ih fun o ho => h o (by simp [ho])
    rcases hs : out.schema? with _ | s
    · simp [Outcome.reference?, hs, ih', Outcome.registers, Outcome.isAccepted]
    · have ht : s.type = out.entry.name := h out (by simp) s hs
      by_cases hn : out.entry.name = n <;>
        simp [Outcome.reference?, hs, ih', Outcome.registers, Outcome.isAccepted, ht, hn]

/-- **The last reference of a type is made of the schema that is registered.** -/
lemma schema_of_last_reference {o : Options} {vocabulary : List Category} (r : Registries)
    {n : String} {ref : BlockReference}
    (h : ref ∈ ((compile o vocabulary).references.filter (·.type = n)).getLast?) :
    ∃ out ∈ (compile o vocabulary).outcomes, ∃ s, out.schema? = some s ∧
      ref = BlockReference.ofSchema s ∧
      ((compile o vocabulary).register r).blocks.get? n = some s := by
  have hall : ∀ out ∈ (compile o vocabulary).outcomes.filter (·.registers n),
      out.reference?.isSome := by
    intro out hout
    have hacc := (registers_iff.mp (List.mem_filter.mp hout).2).1
    simpa [Outcome.reference?, Outcome.isAccepted] using hacc
  have hnamed : ∀ out ∈ (compile o vocabulary).outcomes, out.Named :=
    fun _ => named_of_mem_outcomes
  rw [Option.mem_def, Compilation.references, filter_references hnamed, getLast?_filterMap hall] at h
  obtain ⟨out, hlast, href⟩ := Option.bind_eq_some_iff.mp h
  obtain ⟨s, hs, rfl⟩ := Option.map_eq_some_iff.mp href
  refine ⟨out, (List.mem_filter.mp (List.mem_of_getLast? hlast)).1, s, hs, rfl, ?_⟩
  rw [(get?_register o vocabulary r n).1, hlast]
  exact hs

/-- Under the strict policy at most one outcome registers a name. -/
lemma length_filter_registers_of_strict {o : Options} (hp : o.duplicates = .strict)
    (vocabulary : List Category) (n : String) :
    ((compile o vocabulary).outcomes.filter (·.registers n)).length ≤ 1 := by
  have hone := filter_registers_judge_of_strict hp n [] (declarations vocabulary)
  rw [if_neg List.not_mem_nil] at hone
  rw [outcomes_eq_judged, List.filter_map, List.length_map, judged_compile]
  refine Nat.le_trans (Nat.le_of_eq (congrArg List.length hone)) ?_
  rcases (judge o [] (declarations vocabulary)).find? _ with _ | d <;> simp

/-- Under the strict policy a reference is the only one of its type. -/
lemma last_reference_of_strict {o : Options} (hp : o.duplicates = .strict)
    {vocabulary : List Category} {ref : BlockReference}
    (h : ref ∈ (compile o vocabulary).references) :
    ref ∈ ((compile o vocabulary).references.filter (·.type = ref.type)).getLast? := by
  have hle : ((compile o vocabulary).references.filter (·.type = ref.type)).length ≤ 1 := by
    rw [Compilation.references, filter_references (fun _ => named_of_mem_outcomes)]
    exact Nat.le_trans (List.length_filterMap_le _ _)
      (length_filter_registers_of_strict hp vocabulary ref.type)
  have hmem : ref ∈ (compile o vocabulary).references.filter (·.type = ref.type) :=
    List.mem_filter.mpr ⟨h, by simp⟩
  obtain ⟨ref', hone⟩ := List.length_eq_one_iff.mp
    (Nat.le_antisymm hle (List.length_pos_of_mem hmem))
  rw [hone] at hmem ⊢
  simpa using (List.mem_singleton.mp hmem).symm

/-- Under the strict policy no schema has two connections of one name. -/
lemma nodup_connectionNames_of_strict {o : Options} (hp : o.duplicates = .strict)
    {vocabulary : List Category} {out : Outcome} {s : BlockSchema}
    (hout : out ∈ (compile o vocabulary).outcomes) (hs : out.schema? = some s) :
    s.connectionNames.Nodup := by
  obtain ⟨category, colour, declared, heq⟩ := mem_outcomes_compile hout
  obtain ⟨-, l, hl, hnodup, ha⟩ := of_schema?_outcome (heq ▸ hs)
  have hrows : s.rows = l.rows := congrArg BlockSchema.rows (assemble_eq_ok ha).2
  rw [BlockSchema.connectionNames, hrows, connectionNames_layOut hl]
  exact hnodup hp

/-- **References agree with the registered blocks where nothing is declared twice.** Every block
that a category of the vocabulary refers to is registered. The last reference to a type gives a
connection the default child that the registered block gives it, if no other connection of the block
has the name. Under the strict policy all references and all connections are such. -/
theorem inputs_references (o : Options) (vocabulary : List Category) (r : Registries) :
    let c := compile o vocabulary
    let refs := (c.toolbox.contents.take vocabulary.length).flatMap (·.contents)
    let blocks := (c.register r).blocks
    (∀ ref ∈ refs, ∃ s, blocks.get? ref.type = some s) ∧
    (∀ n, ∀ ref ∈ (refs.filter (·.type = n)).getLast?, ∃ s, blocks.get? n = some s ∧
      ∀ name, s.connectionNames.count name ≤ 1 →
        ref.inputs.get? name = (s.input? name).bind Row.shadow?) ∧
    (o.duplicates = .strict → ∀ ref ∈ refs, ∃ s, blocks.get? ref.type = some s ∧
      ∀ name, ref.inputs.get? name = (s.input? name).bind Row.shadow?) := by
  intro c refs blocks
  have hrefs : refs = c.references := references_toolbox o vocabulary
  rw [hrefs]
  refine ⟨fun ref href => ?_, fun n ref href => ?_, fun hp ref href => ?_⟩
  · -- the last reference of the type says that there is a schema
    have hmem : ref ∈ c.references.filter (·.type = ref.type) :=
      List.mem_filter.mpr ⟨href, by simp⟩
    obtain ⟨last, hlast⟩ := Option.isSome_iff_exists.mp
      (List.getLast?_isSome.mpr (List.ne_nil_of_mem hmem))
    obtain ⟨-, -, s, -, -, hget⟩ := schema_of_last_reference r hlast
    exact ⟨s, hget⟩
  · obtain ⟨-, -, s, -, rfl, hget⟩ := schema_of_last_reference r href
    exact ⟨s, hget, fun name => get?_inputs_eq_input?⟩
  · obtain ⟨out, hout, s, hs, rfl, hget⟩ :=
      schema_of_last_reference r (last_reference_of_strict hp href)
    have hnodup := nodup_connectionNames_of_strict hp hout hs
    exact ⟨s, hget, fun name =>
      get?_inputs_eq_input? (List.nodup_iff_count_le_one.mp hnodup name)⟩

/-- A block declared twice, the second time with a default child. -/
def redeclared : List Category :=
  [{ name := "Lists",
     entries :=
      [{ name := "repeat", template := [.connection { name := "TIMES" }] },
        { name := "repeat",
          template := [.connection { name := "TIMES", shadow := some "ten" }] }] }]

/-- A block with two connections of one name, the second with a default child. -/
def twinInputs : List Category :=
  [{ name := "Lists",
     entries :=
      [{ name := "swap",
         template :=
          [.connection { name := "AT" }, .connection { name := "AT", shadow := some "one" }] }] }]

theorem inputs_references_redeclared :
    (∃ s, ((compile {} redeclared).register .empty).blocks.get? "repeat" = some s ∧
      (s.input? "TIMES").bind Row.shadow? = some "ten") ∧
    ∃ s, ((compile { duplicates := .strict } redeclared).register .empty).blocks.get? "repeat" =
        some s ∧
      (s.input? "TIMES").bind Row.shadow? = none := by
  obtain ⟨-, hlast, -⟩ := inputs_references {} redeclared .empty
  obtain ⟨-, -, hstrict⟩ := inputs_references { duplicates := .strict } redeclared .empty
  obtain ⟨s, hs, hagree⟩ := hlast "repeat" _ (Option.mem_def.mpr rfl)
  obtain ⟨s', hs', hfull⟩ := hstrict rfl _ (List.mem_singleton.mpr rfl)
  refine ⟨⟨s, hs, ?_⟩, s', hs', (hfull "TIMES").symm⟩
  obtain rfl := Option.some.inj hs
  exact (hagree "TIMES" (by decide)).symm

/-- A reference disagrees with the registered block when a later declaration has replaced the block,
and also when two connections of the block share a name. -/
theorem inputs_disagree :
    (∃ ref ∈ ((compile {} redeclared).toolbox.contents.take 1).flatMap (·.contents),
      ∃ s, ((compile {} redeclared).register .empty).blocks.get? ref.type = some s ∧
        ref.inputs.get? "TIMES" = none ∧ (s.input? "TIMES").bind Row.shadow? = some "ten") ∧
    ∃ ref ∈ ((compile {} twinInputs).toolbox.contents.take 1).flatMap (·.contents),
      ∃ s, ((compile {} twinInputs).register .empty).blocks.get? ref.type = some s ∧
        ref.inputs.get? "AT" = some "one" ∧ (s.input? "AT").bind Row.shadow? = none :=
  ⟨⟨_, .head _, _, rfl, rfl, rfl⟩, _, .head _, _, rfl, rfl, rfl⟩

end BlockVocabulary
