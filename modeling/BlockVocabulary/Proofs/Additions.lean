import BlockVocabulary.Proofs.Definitions
import BlockVocabulary.Proofs.Policies

/-!
Options that only add.

Whether the built-in categories and the descriptors are wanted has no say in what becomes of a
declaration. The built-in categories stand at the end of the toolbox, and in a result only accepted
declarations are registered; so a built-in type that is found is one that a category of the
vocabulary has mentioned before, and the walks over the toolbox meet nothing new at its end.
-/

namespace BlockVocabulary

/-- Blocks that steer what runs next, all without default children. -/
def flowCategory : ToolboxCategory where
  kind := .category
  name := "Flow"
  colour := "#5ba55b"
  contents := ["controls_if", "controls_repeat_ext", "controls_whileUntil", "controls_for",
    "controls_flow_statements"].map fun type => ⟨.block, type, Table.empty⟩

/-- Blocks that calculate, all without default children. -/
def mathCategory : ToolboxCategory where
  kind := .category
  name := "Math"
  colour := "#5b67a5"
  contents := ["math_number", "math_arithmetic", "math_single", "math_round",
    "math_modulo"].map fun type => ⟨.block, type, Table.empty⟩

lemma defaultCategories_eq : Toolbox.defaultCategories = [flowCategory, mathCategory] := rfl

/-- The compile with additions as given. -/
def Compilation.adding (c : Compilation) (defaults described : Bool) : Compilation :=
  { c with
    options := { c.options with defaultCategories := defaults, vocabulary := described } }

/-- The outcomes are the same with all additions. -/
lemma compile_adding (o : Options) (defaults described : Bool) (vocabulary : List Category) :
    compile { o with defaultCategories := defaults, vocabulary := described } vocabulary =
      (compile o vocabulary).adding defaults described := by
  have hagree : o.AgreesWhere { o with defaultCategories := defaults, vocabulary := described }
      fun _ => True := fun _ _ _ _ _ => rfl
  exact congrArg (Compilation.mk _) (categories_compile_congr hagree fun _ _ => trivial)

/-- The built-in categories come at the end of the toolbox. -/
lemma toolbox_adding (c : Compilation) (described : Bool) :
    (c.adding true described).toolbox =
      (c.adding false described).toolbox.extend Toolbox.defaultCategories := by
  simp [Compilation.adding, Compilation.toolbox, Toolbox.assemble, Toolbox.extend]

/-- With the built-in categories nothing changes but the toolbox and the digest. -/
lemma result_adding_defaults (o : Options) (described : Bool) (vocabulary : List Category) :
    let off := (compile o vocabulary).adding false described
    let on := (compile o vocabulary).adding true described
    on.result = { off.result with
      toolbox := some (off.toolbox.extend Toolbox.defaultCategories)
      fingerprint := on.result.fingerprint } := by
  intro off on
  have hmentioned : ∀ n, (off.register .empty).blocks.contains n = true →
      n ∈ off.toolbox.blockTypes := by
    rw [show off = _ from (compile_adding o false described vocabulary).symm]
    exact fun n => mem_blockTypes_of_contains
  have htool : on.toolbox = off.toolbox.extend Toolbox.defaultCategories := toolbox_adding _ _
  have hblocks : on.result.blocks = off.result.blocks :=
    (congrArg (·.definitions (off.register .empty).blocks) htool).trans
      (definitions_extend hmentioned { contents := Toolbox.defaultCategories })
  have hdescriptors : on.result.descriptors = off.result.descriptors :=
    congrArg (fun ds => if described then some ds else none)
      ((congrArg (·.descriptors (off.register .empty).blocks) htool).trans
        (descriptors_extend hmentioned { contents := Toolbox.defaultCategories }))
  calc on.result
      = { off.result with
          toolbox := some on.toolbox
          blocks := on.result.blocks
          descriptors := on.result.descriptors
          fingerprint := on.result.fingerprint } := rfl
    _ = _ := by rw [htool, hblocks, hdescriptors]

/-- **Built-in categories and descriptors are additions.** Whether the built-in categories are
wanted changes nothing in a result but that the toolbox ends in the two of them, and the digest of
it. Whether descriptors are wanted changes nothing but the descriptors. -/
theorem ofText_additions (source : String) (o : Options) :
    let off := CompileResult.ofText source { o with defaultCategories := false }
    let on := CompileResult.ofText source { o with defaultCategories := true }
    let plain := CompileResult.ofText source { o with vocabulary := false }
    let described := CompileResult.ofText source { o with vocabulary := true }
    on = { off with
      toolbox := off.toolbox.map (·.extend [flowCategory, mathCategory])
      fingerprint := on.fingerprint } ∧
    described = { plain with descriptors := described.descriptors } := by
  rw [← defaultCategories_eq]
  simp only [CompileResult.ofText]
  rcases Document.read source with e | vocabulary
  · exact ⟨rfl, rfl⟩
  · simp only [CompileResult.ofDocument]
    refine ⟨?_, ?_⟩
    · rw [compile_adding o true, compile_adding o false]
      exact result_adding_defaults o o.vocabulary vocabulary
    · rw [compile_adding o o.defaultCategories true, compile_adding o o.defaultCategories false]
      rfl

end BlockVocabulary
