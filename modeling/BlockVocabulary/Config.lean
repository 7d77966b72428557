import BlockVocabulary.Options
import BlockVocabulary.Toml.Reader

/-!
Compile options from a TOML document. A document may give any of the options; what else it holds is
passed over.
-/

namespace BlockVocabulary.Config

def boolean : Toml → Option Bool
  | .boolean b => some b
  | _ => none

def string : Toml → Option String
  | .string s => some s
  | _ => none

/-- A table or an array with nothing in it. -/
def isEmpty : Toml → Bool
  | .array items => items.isEmpty
  | .table _ entries => entries.isEmpty
  | .tables elements => elements.isEmpty
  | _ => false

/-- One of several names, alone or as the only key of a table, with nothing under it. -/
def variant {α : Type} (ofName? : String → Option α) : Toml → Option α
  | .string s => ofName? s
  | .table _ [(s, v)] => if isEmpty v then ofName? s else none
  | _ => none

def set (o : Options) (entry : String × Toml) : Option Options := do
  let (key, v) := entry
  match key with
  | "unknown_fields" => return { o with unknownFields := ← variant UnknownFieldPolicy.ofName? v }
  | "duplicates" => return { o with duplicates := ← variant DuplicatePolicy.ofName? v }
  | "default_categories" => return { o with defaultCategories := ← boolean v }
  | "vocabulary" => return { o with vocabulary := ← boolean v }
  | "help_icon" => return { o with helpIcon := ← string v }
  | _ => return o

/-- The options of a document, if it is one. -/
def read (text : String) : Option Options := do (← Toml.read text).foldlM set {}

end BlockVocabulary.Config
