import BlockVocabulary.Proofs.FirstMentions
import BlockVocabulary.Proofs.References

/-!
Which blocks the descriptors of a compile describe.

Every block that the compile accepted is described once, in the order in which the toolbox mentions
the names first. The built-in categories are looked up like all others, so a block that an earlier
compile registered under a built-in name is described too.
-/

namespace BlockVocabulary

/-! ### The names in a toolbox -/

/-- The built-in block types that the toolbox refers to. -/
def Compilation.builtins (c : Compilation) : List String :=
  if c.options.defaultCategories then Toolbox.defaultCategories.flatMap (·.blockTypes) else []

/-- What the registries held before under built-in names that the compile has not taken. -/
def Compilation.leftovers (c : Compilation) (r : Registries) : List BlockSchema :=
  (c.builtins.filter (· ∉ c.names)).filterMap r.blocks.get?

lemma nodup_builtins (c : Compilation) : c.builtins.Nodup := by
  unfold Compilation.builtins
  split
  · decide
  · exact List.nodup_nil

/-- The toolbox mentions the accepted declarations in order, and then the built-in blocks. -/
lemma blockTypes_toolbox (c : Compilation) : c.toolbox.blockTypes = c.names ++ c.builtins := by
  have hnames : (c.categories.map CompiledCategory.toolboxCategory).flatMap (·.blockTypes) =
      c.names := by
    rw [List.flatMap_map, Compilation.names, Compilation.outcomes, acceptedNames,
      List.filterMap_flatMap]
    exact congrArg (List.flatMap · c.categories) (funext blockTypes_toolboxCategory)
  rw [Compilation.toolbox, Toolbox.assemble, Toolbox.blockTypes, List.flatMap_append]
  refine congrArg₂ _ hnames ?_
  unfold Compilation.builtins
  split <;> rfl

/-! ### A compile -/

/-- Under an accepted name stands a schema of that type. -/
lemma type_of_mem_names {o : Options} {vocabulary : List Category} {n : String}
    (h : n ∈ (compile o vocabulary).names) (r : Registries) :
    (((compile o vocabulary).register r).blocks.get? n).map (·.type) = some n := by
  obtain ⟨out, hout, hr, hget⟩ := get?_register_of_mem h
  obtain ⟨hacc, hname⟩ := registers_iff.mp hr
  obtain ⟨s, hs⟩ := Option.isSome_iff_exists.mp hacc
  rw [(hget r).1, hs, Option.map_some, named_of_mem_outcomes hout s hs, hname]

/-- **The descriptors are those of the accepted names and of what was left under built-in names.**
The names come in the order in which the toolbox mentions them first, each once. They are just the
accepted names exactly if nothing was left under a built-in name. -/
theorem names_descriptors {o : Options} (hv : o.vocabulary = true) (vocabulary : List Category)
    (r : Registries) :
    let c := compile o vocabulary
    c.toolbox.blockTypes = c.names ++ c.builtins ∧
    ∃ ds, c.descriptors? r = some ds ∧
      ds.map (·.name) = c.names.eraseDups ++ (c.leftovers r).map (·.type) ∧
      (ds.map (·.name) = c.names.eraseDups ↔ c.leftovers r = []) := by
  intro c
  have htypes : c.toolbox.blockTypes = c.names ++ c.builtins := blockTypes_toolbox c
  have haccepted : c.names.eraseDups.filterMap
      (fun n => ((c.register r).blocks.get? n).map (·.type)) = c.names.eraseDups := by
    rw [List.filterMap_congr fun n hn => type_of_mem_names (List.mem_eraseDups.mp hn) r]
    exact List.filterMap_some
  have hleft : (c.builtins.removeAll c.names).filterMap
      (fun n => ((c.register r).blocks.get? n).map (·.type)) = (c.leftovers r).map (·.type) := by
    have hfilter : c.builtins.removeAll c.names = c.builtins.filter (· ∉ c.names) := by
      simp [List.removeAll]
    rw [hfilter, Compilation.leftovers, List.map_filterMap]
    refine List.filterMap_congr fun n hn => ?_
    have hnot : n ∉ c.names := by simpa using (List.mem_filter.mp hn).2
    rw [(get?_register_of_not_mem hnot r).1]
  have hnodup : (c.builtins.removeAll c.names).eraseDups = c.builtins.removeAll c.names :=
    eraseDups_of_nodup ((nodup_builtins c).filter _)
  have hnames : (c.toolbox.descriptors (c.register r).blocks).map (·.name) =
      c.names.eraseDups ++ (c.leftovers r).map (·.type) := by
    rw [names_descriptors_toolbox, htypes, List.eraseDups_append, List.filterMap_append,
      haccepted, hnodup, hleft]
  refine ⟨htypes, c.toolbox.descriptors (c.register r).blocks, if_pos hv, hnames, ?_⟩
  rw [hnames, List.append_right_eq_self, List.map_eq_nil_iff]

/-- A vocabulary of its own number block, under the name of a built-in one. -/
def ownNumbers : List Category :=
  [{ name := "Numbers",
     entries := [{ name := "math_number" }, { name := "ten" }, { name := "math_number" }] }]

theorem names_descriptors_ownNumbers :
    ∃ ds, (compile { vocabulary := true, defaultCategories := true } ownNumbers).descriptors?
        .empty = some ds ∧ ds.map (·.name) = ["math_number", "ten"] := by
  obtain ⟨-, ds, hds, hnames, -⟩ := names_descriptors
    (o := { vocabulary := true, defaultCategories := true }) rfl ownNumbers .empty
  exact ⟨ds, hds, hnames.trans (by decide)⟩

/-- A block that an earlier compile has left under a built-in name is described by a compile that
accepts nothing. -/
theorem names_descriptors_leftover :
    let c := compile { vocabulary := true, defaultCategories := true } []
    ∃ ds, c.descriptors? ((compile {} ownNumbers).register .empty) = some ds ∧
      ds.map (·.name) = ["math_number"] ∧ c.names = [] :=
  ⟨_, rfl, by decide, rfl⟩

end BlockVocabulary
