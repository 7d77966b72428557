import BlockVocabulary.Json.Decode

/-!
Options of a compile. Every option has a default, so part of a document is enough.
-/

namespace BlockVocabulary

/-- What happens to a template element that is no known field. -/
inductive UnknownFieldPolicy where
  /-- It fails its entry. -/
  | failFast
  /-- It is left out. -/
  | permissive
  deriving DecidableEq, Repr

/-- What happens when two entries, or two connections of one entry, share a name. -/
inductive DuplicatePolicy where
  /-- The last declaration counts, with a warning. -/
  | warn
  /-- The later declaration fails. -/
  | strict
  deriving DecidableEq, Repr

namespace UnknownFieldPolicy

def name : UnknownFieldPolicy → String
  | failFast => "fail_fast"
  | permissive => "permissive"

def all : List UnknownFieldPolicy := [failFast, permissive]

def ofName? (s : String) : Option UnknownFieldPolicy := all.find? (·.name = s)

def ofJson : Json → Decoded UnknownFieldPolicy := Decode.variant (all.map name) ofName?

end UnknownFieldPolicy

namespace DuplicatePolicy

def name : DuplicatePolicy → String
  | warn => "warn"
  | strict => "strict"

def all : List DuplicatePolicy := [warn, strict]

def ofName? (s : String) : Option DuplicatePolicy := all.find? (·.name = s)

def ofJson : Json → Decoded DuplicatePolicy := Decode.variant (all.map name) ofName?

end DuplicatePolicy

/-- The options that laying out a template depends on. -/
structure LayoutOptions where
  unknownFields : UnknownFieldPolicy := .failFast
  /-- The image of the help affordance on every block. -/
  helpIcon : String := "media/help.svg"
  deriving DecidableEq, Repr

structure Options extends LayoutOptions where
  duplicates : DuplicatePolicy := .warn
  /-- Append the built-in categories to the toolbox. -/
  defaultCategories : Bool := false
  /-- Describe the compiled blocks. -/
  vocabulary : Bool := false
  deriving DecidableEq, Repr

namespace Options

def format : RecordFormat Options where
  name := "CompileOptions"
  fields := ["unknown_fields", "duplicates", "default_categories", "vocabulary", "help_icon"]
  required := []
  start := {}
  set name v o :=
    match name with
    | "unknown_fields" => return { o with unknownFields := ← UnknownFieldPolicy.ofJson v }
    | "duplicates" => return { o with duplicates := ← DuplicatePolicy.ofJson v }
    | "default_categories" => return { o with defaultCategories := ← Decode.bool v }
    | "vocabulary" => return { o with vocabulary := ← Decode.bool v }
    | "help_icon" => return { o with helpIcon := ← Decode.string v }
    | _ => return o

def ofJson : Json → Decoded Options := format.read

def toJson (o : Options) : Json :=
  .object
    [("unknown_fields", .text o.unknownFields.name),
     ("duplicates", .text o.duplicates.name),
     ("default_categories", .bool o.defaultCategories),
     ("vocabulary", .bool o.vocabulary),
     ("help_icon", .text o.helpIcon)]

end Options

end BlockVocabulary
