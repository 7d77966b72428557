import BlockVocabulary.Descriptor
import BlockVocabulary.Outcome

/-!
Compiling a vocabulary. Every declaration is judged on its own, in order; all it learns from the
ones before is which names have been accepted. The toolbox, the diagnostics and the new contents of
the registries are read off the outcomes, so a declaration that fails leaves a diagnostic and
nothing else.
-/

namespace BlockVocabulary

structure CompiledCategory where
  category : Category
  outcomes : List Outcome

/-- The names of the accepted declarations. -/
def acceptedNames (outcomes : List Outcome) : List String :=
  outcomes.filterMap fun out => out.schema?.map (·.type)

/-- The outcomes of entries of a category, `accepted` being the names accepted before. -/
def compileEntries (o : Options) (category colour : String) (accepted : List String) :
    List Entry → List Outcome
  | [] => []
  | e :: es =>
    let out := e.outcome o category colour (accepted.contains e.name)
    out :: compileEntries o category colour (accepted ++ acceptedNames [out]) es

/-- The outcomes of categories, `accepted` being the names accepted before. -/
def compileCategories (o : Options) (accepted : List String) :
    List Category → List CompiledCategory
  | [] => []
  | c :: cs =>
    let outcomes := compileEntries o c.name (visibleColour c.colour) accepted c.entries
    ⟨c, outcomes⟩ :: compileCategories o (accepted ++ acceptedNames outcomes) cs

/-- All outcomes of a vocabulary, and the options it was compiled under. -/
structure Compilation where
  options : Options
  categories : List CompiledCategory

def compile (o : Options) (vocabulary : List Category) : Compilation :=
  ⟨o, compileCategories o [] vocabulary⟩

def CompiledCategory.toolboxCategory (c : CompiledCategory) : ToolboxCategory :=
  .of c.category.name c.category.colour
    (c.outcomes.filterMap fun out => out.schema?.map BlockReference.ofSchema)

/-- Registers an accepted declaration. -/
def Registries.record (r : Registries) (out : Outcome) : Registries :=
  match out.schema? with
  | some s => (r.addBlock s).addGenerator out.entry.name out.entry.generator
  | none => r

namespace Compilation

def outcomes (c : Compilation) : List Outcome := c.categories.flatMap (·.outcomes)

/-- The names of the accepted declarations. -/
def names (c : Compilation) : List String := acceptedNames c.outcomes

def toolbox (c : Compilation) : Toolbox :=
  Toolbox.assemble (c.categories.map CompiledCategory.toolboxCategory) c.options.defaultCategories

def diagnostics (c : Compilation) : Diagnostics :=
  Diagnostics.empty.pushAll (c.outcomes.flatMap Outcome.diagnostics)

def succeeded (c : Compilation) : Bool := !c.diagnostics.hasErrors

/-- The registries after the compile. -/
def register (c : Compilation) (r : Registries) : Registries := c.outcomes.foldl Registries.record r

/-- The descriptors of the blocks in the toolbox, if they are wanted, given what the registries held
before. -/
def descriptors? (c : Compilation) (r : Registries) : Option (List Descriptor) :=
  if c.options.vocabulary then some (c.toolbox.descriptors (c.register r).blocks) else none

end Compilation

end BlockVocabulary
