import BlockVocabulary.Definition

/-!
Registries: the block schemas and the code generators known under each block type. They belong to
the host and outlive a compile; what is registered under a name replaces what was there.
-/

namespace BlockVocabulary

structure Registries where
  blocks : Table BlockSchema := Table.empty
  generators : Table Generator := Table.empty

namespace Registries

def empty : Registries := {}

def addBlock (r : Registries) (s : BlockSchema) : Registries :=
  { r with blocks := r.blocks.insert s.type s }

def addGenerator (r : Registries) (type : String) (g : Generator) : Registries :=
  { r with generators := r.generators.insert type g }

/-- The code of a block, by the generator of its type. -/
def generate? (r : Registries) (b : Block) : Option String :=
  (r.generators.get? b.type).map (·.generate b)

/-- The definitions of all blocks, in the order of their types. -/
def definitions (r : Registries) : List Json := r.blocks.values.map BlockSchema.definition

end Registries

end BlockVocabulary
