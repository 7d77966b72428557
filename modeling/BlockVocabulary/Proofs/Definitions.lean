import BlockVocabulary.CompileResult
import BlockVocabulary.Proofs.ByteOrder
import BlockVocabulary.Proofs.Descriptors

/-!
The definitions in a result.

A result comes of a compile into empty registries, so the blocks that are registered in the end are
those of accepted declarations, and the toolbox mentions all of them. Hence every block has its
definition, at the place where the toolbox mentions its type first; and the definitions, which are
found on a walk of their own over the toolbox, line up with the descriptors.
-/

namespace BlockVocabulary

/-! ### The members of a definition -/

lemma definition_type (s : BlockSchema) : s.definition.get? "type" = some (.text s.type) :=
  s.get?_definition.1

lemma definition_tooltip (s : BlockSchema) :
    s.definition.get? "tooltip" = some (.text s.tooltip) :=
  s.get?_definition.2.2.2.2.1

/-- The block type that a definition gives. -/
def Json.blockType (v : Json) : String :=
  match v.get? "type" with
  | some (.text type) => type
  | _ => ""

@[simp] lemma blockType_definition (s : BlockSchema) : s.definition.blockType = s.type := by
  rw [Json.blockType, definition_type]

/-! ### The blocks of a compile -/

section

variable {o : Options} {vocabulary : List Category} {n : String} {s : BlockSchema}

/-- A block that is registered is one of an accepted declaration. -/
lemma exists_outcome_of_get?
    (h : ((compile o vocabulary).register .empty).blocks.get? n = some s) :
    ∃ out ∈ (compile o vocabulary).outcomes, out.schema? = some s ∧ out.entry.name = n := by
  have hn : n ∈ (compile o vocabulary).names := by
    by_contra hn
    rw [(get?_register_of_not_mem hn .empty).1] at h
    cases h
  obtain ⟨out, hout, hr, hget⟩ := get?_register_of_mem hn
  exact ⟨out, hout, (hget .empty).1.symm.trans h, (registers_iff.mp hr).2⟩

/-- It stands under its type. -/
lemma type_of_get? (h : ((compile o vocabulary).register .empty).blocks.get? n = some s) :
    s.type = n := by
  obtain ⟨out, hout, hs, hname⟩ := exists_outcome_of_get? h
  exact (named_of_mem_outcomes hout s hs).trans hname

/-- What is registered are the accepted names. -/
lemma contains_register_iff (o : Options) (vocabulary : List Category) (n : String) :
    ((compile o vocabulary).register .empty).blocks.contains n = true ↔
      n ∈ (compile o vocabulary).names := by
  rw [Table.contains, Option.isSome_iff_exists]
  constructor
  · rintro ⟨s, hs⟩
    obtain ⟨out, hout, hschema, hname⟩ := exists_outcome_of_get? hs
    refine (mem_acceptedNames_iff (fun _ => named_of_mem_outcomes) n).mpr ⟨out, hout, ?_⟩
    exact registers_iff.mpr ⟨by rw [Outcome.isAccepted, hschema]; rfl, hname⟩
  · intro hn
    obtain ⟨s, hs, -⟩ := Option.map_eq_some_iff.mp (type_of_mem_names hn .empty)
    exact ⟨s, hs⟩

/-- The toolbox mentions every registered block. -/
lemma mem_blockTypes_of_contains
    (h : ((compile o vocabulary).register .empty).blocks.contains n = true) :
    n ∈ (compile o vocabulary).toolbox.blockTypes := by
  rw [blockTypes_toolbox]
  exact List.mem_append_left _ ((contains_register_iff o vocabulary n).mp h)

/-- The output of a block that yields a value is the check token of a type. -/
def Shape.IsTyped (shape : Shape) : Prop :=
  ∀ output, shape = .expression output → ∃ t, t ≠ .void ∧ output = ConnectionType.check t

lemma isTyped_of_shape_eq_ok {e : Entry} {shape : Shape} (h : e.shape = .ok shape) :
    shape.IsTyped := by
  rintro output rfl
  unfold Entry.shape at h
  split at h
  · cases h
  · split at h
    · cases h
    · next t _ =>
      split at h
      · cases h
      · next hv =>
        have ht : t ≠ .void := by simpa [ConnectionType.isStatement] using hv
        exact ⟨t, ht, by simpa [eq_comm] using h⟩

lemma isTyped_of_get? (h : ((compile o vocabulary).register .empty).blocks.get? n = some s) :
    s.shape.IsTyped := by
  obtain ⟨out, hout, hs, -⟩ := exists_outcome_of_get? h
  obtain ⟨category, colour, declared, heq⟩ := mem_outcomes_compile hout
  obtain ⟨-, l, -, -, ha⟩ := of_schema?_outcome (heq ▸ hs)
  exact isTyped_of_shape_eq_ok (assemble_eq_ok ha).1

end

/-! ### The list of definitions -/

lemma filterMap_get?_keys {α : Type} (t : Table α) : t.keys.filterMap t.get? = t.values := by
  rw [Table.keys, Table.values, List.filterMap_map, ← List.filterMap_eq_map]
  exact List.filterMap_congr fun e he => Keyed.lookup_of_mem t.sorted he

/-- If the toolbox mentions all registered blocks, its definitions are those of the registry in
another order. -/
lemma definitions_perm {t : Toolbox} {r : Registries}
    (h : ∀ n, r.blocks.contains n = true → n ∈ t.blockTypes) :
    (t.definitions r.blocks).Perm r.definitions := by
  have hkeys : r.blocks.keys.Nodup := r.blocks.sorted_keys.imp String.ne_of_lt
  have hperm : (t.registeredNames r.blocks).Perm r.blocks.keys := by
    rw [List.perm_ext_iff_of_nodup (nodup_registeredNames t r.blocks) hkeys]
    intro n
    rw [mem_registeredNames, Table.mem_keys]
    exact ⟨And.right, fun hn => ⟨h n hn, hn⟩⟩
  rw [definitions_eq_filterMap, Registries.definitions, ← filterMap_get?_keys,
    List.map_filterMap]
  exact hperm.filterMap _

/-- If every block stands under its type, the definitions of the registry are in the order of the
types, which are distinct. -/
lemma pairwise_definitions {r : Registries} (h : ∀ n s, r.blocks.get? n = some s → s.type = n) :
    r.definitions.Pairwise fun d d' => d.blockType < d'.blockType := by
  rw [Registries.definitions, Table.values, List.map_map, List.pairwise_map]
  refine r.blocks.sorted.imp_of_mem fun {e e'} he he' hlt => ?_
  simp only [Function.comp_apply, blockType_definition]
  rwa [h _ _ (Keyed.lookup_of_mem r.blocks.sorted he),
    h _ _ (Keyed.lookup_of_mem r.blocks.sorted he')]

/-- A list with distinct keys has one sorted order. -/
lemma mergeSort_eq_of_perm {α : Type} (key : α → String) {l m : List α} (hp : l.Perm m)
    (hm : m.Pairwise fun a b => key a < key b) :
    l.mergeSort (fun a b => key a ≤ key b) = m := by
  have hinj := List.inj_on_of_nodup_map ((List.pairwise_map.mpr hm).imp String.ne_of_lt)
  have hsorted : (l.mergeSort (fun a b => key a ≤ key b)).Pairwise
      fun a b => decide (key a ≤ key b) = true := by
    refine List.pairwise_mergeSort (fun a b c hab hbc => ?_) (fun a b => ?_) l
    · exact decide_eq_true (String.le_trans (of_decide_eq_true hab) (of_decide_eq_true hbc))
    · simpa using String.le_total (key a) (key b)
  have hperm := (List.mergeSort_perm l fun a b => decide (key a ≤ key b)).trans hp
  refine List.Perm.eq_of_pairwise (fun a b ha hb hab hba => ?_) hsorted
    (hm.imp fun hlt => decide_eq_true (String.not_lt.mp (String.lt_asymm hlt))) hperm
  exact hinj (hperm.subset ha) hb
    (String.le_antisymm (of_decide_eq_true hab) (of_decide_eq_true hba))

/-- **Every registered block has one definition, its own.** The definitions of a result are those of
the blocks that the compile has registered in the end, one for each, in the order in which the
toolbox mentions their types first, the built-in categories included. Sorted by the bytes of their
types they are the definitions of the registry. -/
theorem blocks_ofDocument (o : Options) (vocabulary : List Category) :
    let toolbox := (compile o vocabulary).toolbox
    let registries := (compile o vocabulary).register .empty
    let blocks := (CompileResult.ofDocument o (.ok vocabulary)).blocks
    ∃ names : List String, names.Nodup ∧
      (∀ n, n ∈ names ↔ registries.blocks.contains n = true) ∧
      (∀ n ∈ names, n ∈ toolbox.blockTypes) ∧
      names.Pairwise (fun m n => toolbox.blockTypes.idxOf m < toolbox.blockTypes.idxOf n) ∧
      blocks.map some =
        names.map (fun n => (registries.blocks.get? n).map BlockSchema.definition) ∧
      blocks.map (Json.get? "type") = names.map (fun n => some (.text n)) ∧
      blocks.mergeSort (fun d d' => Text.bytes d.blockType ≤ Text.bytes d'.blockType) =
        registries.definitions := by
  intro toolbox registries blocks
  have hmentioned : ∀ n, registries.blocks.contains n = true → n ∈ toolbox.blockTypes :=
    fun n => mem_blockTypes_of_contains
  have htype : ∀ n s, registries.blocks.get? n = some s → s.type = n := fun n s => type_of_get?
  have hblocks := map_some_definitions toolbox registries.blocks
  refine ⟨toolbox.registeredNames registries.blocks, nodup_registeredNames _ _, fun n => ?_,
    fun n hn => (mem_registeredNames.mp hn).1, pairwise_registeredNames _ _, hblocks, ?_, ?_⟩
  · exact ⟨fun hn => (mem_registeredNames.mp hn).2,
      fun hn => mem_registeredNames.mpr ⟨hmentioned n hn, hn⟩⟩
  · have hsome : blocks.map (Json.get? "type") =
        (blocks.map some).map (·.bind (Json.get? "type")) := by
      rw [List.map_map]
      rfl
    rw [hsome, show blocks.map some = _ from hblocks, List.map_map]
    refine List.map_congr_left fun n hn => ?_
    obtain ⟨s, hs⟩ := Option.isSome_iff_exists.mp (mem_registeredNames.mp hn).2
    simp only [Function.comp_apply, hs, Option.map_some, Option.bind_some, definition_type,
      htype n s hs]
  · simp only [bytes_le_iff]
    exact mergeSort_eq_of_perm Json.blockType (definitions_perm hmentioned)
      (pairwise_definitions htype)

/-! ### Definitions and descriptors -/

/-- The descriptor and the definition tell the same of a block. -/
structure Descriptor.Describes (d : Descriptor) (definition : Json) : Prop where
  type : definition.get? "type" = some (.text d.name)
  tooltip : definition.get? "tooltip" = some (.text d.description)
  /-- It yields a value exactly if it has an output. -/
  returns : d.returns = none ↔ definition.get? "output" = none
  /-- Without an output it has a place in a sequence. -/
  links : d.returns = none → definition.get? "previousStatement" = some .null ∧
    definition.get? "nextStatement" = some .null
  /-- The output has the check token of the type that is returned. -/
  output : ∀ tag, d.returns = some tag → ∃ t, ConnectionType.ofTag? tag = some t ∧
    definition.get? "output" = some (Json.ofOption .text t.check)

lemma describes_definition {s : BlockSchema} (h : s.shape.IsTyped) (category : String) :
    (Descriptor.ofSchema s category).Describes s.definition := by
  have hconnections := s.get?_definition_connections
  rcases hs : s.shape with _ | output <;> rw [hs] at hconnections <;>
    simp only [Prod.mk.injEq] at hconnections <;>
    obtain ⟨houtput, hprevious, hnext⟩ := hconnections
  · have hreturns : (Descriptor.ofSchema s category).returns = none := by
      simp [Descriptor.ofSchema, hs]
    exact ⟨definition_type s, definition_tooltip s, by simp [hreturns, houtput],
      fun _ => ⟨hprevious, hnext⟩, by simp [hreturns]⟩
  · obtain ⟨t, ht, rfl⟩ := h output hs
    have hreturns : (Descriptor.ofSchema s category).returns = some t.tag := by
      simp [Descriptor.ofSchema, hs, checkTag, ConnectionType.ofCheck?_check ht]
    refine ⟨definition_type s, definition_tooltip s, by simp [hreturns, houtput],
      by simp [hreturns], fun tag htag => ?_⟩
    obtain rfl := Option.some.inj (hreturns.symm.trans htag)
    exact ⟨t, ConnectionType.ofTag?_tag t, houtput⟩

/-- The walk for the descriptors and the walk for the definitions meet the same blocks. -/
lemma forall₂_describes {blocks : Table BlockSchema}
    (h : ∀ n s, blocks.get? n = some s → s.shape.IsTyped) (t : Toolbox) :
    List.Forall₂ Descriptor.Describes (t.descriptors blocks) (t.definitions blocks) := by
  rw [Toolbox.descriptors, Toolbox.registered, Toolbox.definitions, ← map_fst_firsts_mentions]
  induction firsts t.mentions with
  | nil => exact .nil
  | cons m ms ih =>
    rcases hm : blocks.get? m.1 with _ | s
    · simpa [hm] using ih
    · simpa [hm] using And.intro (describes_definition (h m.1 s hm) m.2) ih

/-- **Descriptors and definitions line up.** If descriptors are wanted, a result has one for each
definition, and at every position both tell the same of one block. -/
theorem descriptors_ofDocument {o : Options} (hv : o.vocabulary = true)
    (vocabulary : List Category) :
    let result := CompileResult.ofDocument o (.ok vocabulary)
    ∃ ds, result.descriptors = some ds ∧ List.Forall₂ Descriptor.Describes ds result.blocks :=
  ⟨_, if_pos hv, forall₂_describes (fun _ _ => isTyped_of_get?) _⟩

/-- A block that yields a number, declared twice under a built-in name, and a statement. -/
def ownArithmetic : List Category :=
  [{ name := "Sums",
     entries :=
      [{ name := "math_number", output := some { tag := some "any" } },
        { name := "add", description := "Adds up.", template := [.connection { name := "BY" }] },
        { name := "math_number", output := some { tag := some "number" } }] }]

theorem descriptors_ofDocument_ownArithmetic :
    let result := CompileResult.ofDocument { vocabulary := true, defaultCategories := true }
      (.ok ownArithmetic)
    ∃ ds, result.descriptors = some ds ∧
      ds.map (fun d => (d.name, d.returns)) = [("math_number", some "number"), ("add", none)] ∧
      List.Forall₂ Descriptor.Describes ds result.blocks := by
  obtain ⟨ds, hds, hlines⟩ := descriptors_ofDocument
    (o := { vocabulary := true, defaultCategories := true }) rfl ownArithmetic
  refine ⟨ds, hds, ?_, hlines⟩
  obtain rfl := Option.some.inj hds
  decide

end BlockVocabulary
