import BlockVocabulary.Compilation
import BlockVocabulary.Digest
import BlockVocabulary.Document
import BlockVocabulary.Json.Printer
import BlockVocabulary.Log

/-!
The result of compiling a document on its own, with registries that start out empty: the toolbox,
the definitions of all compiled blocks in toolbox order, descriptors, diagnostics, and a
fingerprint of the toolbox and the definitions.
-/

namespace BlockVocabulary

structure CompileResult where
  success : Bool
  /-- Absent when the document is no vocabulary. -/
  toolbox : Option Toolbox
  blocks : List Json
  descriptors : Option (List Descriptor)
  diagnostics : Diagnostics
  fingerprint : Option String

/-- The digest of the toolbox and the definitions as JSON text. -/
def fingerprint (toolbox : Toolbox) (blocks : List Json) : String :=
  Digest.sha256 (Json.compact (.list [toolbox.toJson, .list blocks]))

/-- The parts of a compile that starts from empty registries. -/
def Compilation.result (c : Compilation) : CompileResult :=
  let blocks := c.toolbox.definitions (c.register Registries.empty).blocks
  { success := c.succeeded
    toolbox := some c.toolbox
    blocks := blocks
    descriptors := c.descriptors? Registries.empty
    diagnostics := c.diagnostics
    fingerprint := some (fingerprint c.toolbox blocks) }

namespace CompileResult

/-- A result with nothing but one diagnostic. -/
def failed (d : Diagnostic) : CompileResult :=
  { success := false, toolbox := none, blocks := [], descriptors := none,
    diagnostics := Diagnostics.single d, fingerprint := none }

/-- The result for a document that was read, or was found to be no vocabulary. -/
def ofDocument (o : Options) : Except DocumentError (List Category) → CompileResult
  | .ok vocabulary => (compile o vocabulary).result
  | .error e => failed e.diagnostic

def ofText (source : String) (o : Options) : CompileResult := ofDocument o (Document.read source)

def ofJson (v : Json) (o : Options) : CompileResult := ofDocument o (Document.ofJson v)

def toJson (r : CompileResult) : Json :=
  .object [("success", .bool r.success), ("toolbox", Json.ofOption Toolbox.toJson r.toolbox),
    ("blocks", .list r.blocks), ("vocab", Json.ofOption descriptorsJson r.descriptors),
    ("diagnostics", r.diagnostics.toJson), ("fingerprint", Json.ofOption .text r.fingerprint)]

end CompileResult

/-- The log of compiling a document. -/
def documentLog (o : Options) : Except DocumentError (List Category) → List LogLine
  | .ok vocabulary => (compile o vocabulary).log
  | .error e => [⟨.error, e.diagnostic.text⟩]

end BlockVocabulary
