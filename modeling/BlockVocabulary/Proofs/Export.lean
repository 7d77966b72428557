import BlockVocabulary.Proofs.Definitions

/-!
The export of a registry.

What a registry holds is determined by the last schema that was registered under each name, and the
export lists these in the order of the bytes of their names. The order is total and no two names are
alike in it, so it does not matter in which order the names are enumerated before they are sorted.
-/

namespace BlockVocabulary

/-! ### Registered schemas -/

/-- A fresh registry after one registration after the other. -/
def registered (schemas : List BlockSchema) : Registries :=
  schemas.foldl Registries.addBlock .empty

/-- The last schema of a name. -/
def lastOf? (schemas : List BlockSchema) (n : String) : Option BlockSchema :=
  (schemas.filter (·.type = n)).getLast?

/-- **A name belongs to its last schema.** -/
lemma get?_registered (schemas : List BlockSchema) (n : String) :
    (registered schemas).blocks.get? n = lastOf? schemas n := by
  induction schemas using List.reverseRecOn with
  | nil => rfl
  | append_singleton schemas s ih =>
    rw [registered, List.foldl_append, List.foldl_cons, List.foldl_nil, ← registered,
      Registries.addBlock, lastOf?, List.filter_append]
    by_cases hs : s.type = n
    · subst hs
      simp
    · rw [Table.get?_insert_of_ne _ _ (Ne.symm hs), ih]
      simp [lastOf?, hs]

lemma type_of_lastOf? {schemas : List BlockSchema} {n : String} {s : BlockSchema}
    (h : lastOf? schemas n = some s) : s.type = n :=
  of_decide_eq_true (List.mem_filter.mp (List.mem_of_getLast? h)).2

lemma isSome_lastOf? {schemas : List BlockSchema} {n : String} :
    (lastOf? schemas n).isSome = true ↔ n ∈ schemas.map (·.type) := by
  rw [lastOf?, List.getLast?_isSome, List.mem_map]
  constructor
  · intro hne
    obtain ⟨s, hs⟩ := List.exists_mem_of_ne_nil _ hne
    obtain ⟨hmem, htype⟩ := List.mem_filter.mp hs
    exact ⟨s, hmem, of_decide_eq_true htype⟩
  · rintro ⟨s, hs, rfl⟩
    exact List.ne_nil_of_mem (List.mem_filter.mpr ⟨hs, decide_eq_true rfl⟩)

/-! ### The export -/

/-- The definitions of a registry are found under its names. -/
lemma definitions_eq_filterMap_keys (r : Registries) :
    r.definitions = r.blocks.keys.filterMap fun n =>
      (r.blocks.get? n).map BlockSchema.definition := by
  rw [Registries.definitions, ← filterMap_get?_keys, List.map_filterMap]

lemma map_some_definitions_registry (r : Registries) :
    r.definitions.map some =
      r.blocks.keys.map fun n => (r.blocks.get? n).map BlockSchema.definition := by
  rw [Registries.definitions, Table.values, Table.keys, List.map_map, List.map_map, List.map_map]
  refine List.map_congr_left fun e he => ?_
  have hget : r.blocks.get? e.1 = some e.2 := Keyed.lookup_of_mem r.blocks.sorted he
  simp [hget]

/-- **The export is determined by the last schema of each name.** There is one definition for each
name that was registered, in the strict order of the bytes of the names, and it is that of the last
schema of the name. In whatever order the names are taken out of a registry, sorting them gives the
export; and two histories with the same last schemas have the same export. -/
theorem definitions_registered (schemas : List BlockSchema) :
    let r := registered schemas
    ∃ names : List String, names.Pairwise (fun m n => Text.bytes m < Text.bytes n) ∧
      (∀ n, n ∈ names ↔ n ∈ schemas.map (·.type)) ∧
      r.definitions.map (Json.get? "type") = names.map (fun n => some (.text n)) ∧
      r.definitions.map some =
        names.map (fun n => (lastOf? schemas n).map BlockSchema.definition) ∧
      (∀ order : List String, order.Perm names →
        (order.mergeSort fun m n => Text.bytes m ≤ Text.bytes n).filterMap
          (fun n => (r.blocks.get? n).map BlockSchema.definition) = r.definitions) ∧
      ∀ schemas', (∀ n, lastOf? schemas' n = lastOf? schemas n) →
        (registered schemas').definitions = r.definitions := by
  intro r
  have hget : ∀ n, r.blocks.get? n = lastOf? schemas n := get?_registered schemas
  have hlast : r.definitions.map some =
      r.blocks.keys.map fun n => (lastOf? schemas n).map BlockSchema.definition := by
    rw [map_some_definitions_registry]
    exact List.map_congr_left fun n _ => by rw [hget]
  refine ⟨r.blocks.keys, r.blocks.sorted_keys.imp bytes_lt_iff.mpr, fun n => ?_, ?_, hlast,
    fun order horder => ?_, fun schemas' h => ?_⟩
  · rw [Table.mem_keys, hget, isSome_lastOf?]
  · have hsome : r.definitions.map (Json.get? "type") =
        (r.definitions.map some).map (·.bind (Json.get? "type")) := by
      rw [List.map_map]
      rfl
    rw [hsome, hlast, List.map_map]
    refine List.map_congr_left fun n hn => ?_
    obtain ⟨s, hs⟩ := Option.isSome_iff_exists.mp (Table.mem_keys.mp hn)
    rw [hget] at hs
    simp [hs, definition_type, type_of_lastOf? hs]
  · have hsorted : (order.mergeSort fun m n => decide (Text.bytes m ≤ Text.bytes n)) =
        r.blocks.keys := by
      simp only [bytes_le_iff]
      exact mergeSort_eq_of_perm id horder r.blocks.sorted_keys
    rw [hsorted, ← definitions_eq_filterMap_keys]
  · have hblocks : (registered schemas').blocks = r.blocks := by
      refine Table.ext_get? fun n => ?_
      rw [get?_registered, h, hget]
    rw [Registries.definitions, hblocks, Registries.definitions]

/-- A statement block with nothing on it. -/
def plainBlock (type tooltip : String) : BlockSchema :=
  { type := type, rows := [], shape := .statement, tooltip := tooltip, colour := "#000000" }

theorem definitions_registered_overwritten :
    let schemas := [plainBlock "😀" "", plainBlock "é" "old", plainBlock "～" "", plainBlock "z" "",
      plainBlock "é" "new"]
    let schemas' := [plainBlock "é" "new", plainBlock "z" "", plainBlock "～" "", plainBlock "😀" ""]
    (registered schemas').definitions = (registered schemas).definitions ∧
      (registered schemas).definitions.map (Json.get? "tooltip") =
        [some (.text ""), some (.text "new"), some (.text ""), some (.text "")] ∧
      (registered schemas).definitions.map Json.blockType = ["z", "é", "～", "😀"] := by
  intro schemas schemas'
  obtain ⟨-, -, -, -, -, -, hsame⟩ := definitions_registered schemas
  refine ⟨hsame schemas' fun n => ?_, rfl, by decide⟩
  have hnone : ∀ l : List BlockSchema, n ∉ l.map (·.type) → lastOf? l n = none := fun l hl =>
    Option.not_isSome_iff_eq_none.mp fun hs => hl (isSome_lastOf?.mp hs)
  by_cases hn : n ∈ schemas.map (·.type)
  · have hcases : n = "😀" ∨ n = "é" ∨ n = "～" ∨ n = "z" ∨ n = "é" := by
      simpa [schemas, plainBlock] using hn
    rcases hcases with rfl | rfl | rfl | rfl | rfl <;> rfl
  · have hsub : schemas'.map (·.type) ⊆ schemas.map (·.type) := by decide
    rw [hnone schemas' fun hmem => hn (hsub hmem), hnone schemas hn]

end BlockVocabulary
