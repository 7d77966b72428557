import BlockVocabulary.Json.Decode

/-!
Diagnostics: what is wrong with a vocabulary, and where. A code fixes the category of a problem by
its range; the wording and a suggestion go beside it.
-/

namespace BlockVocabulary

inductive Severity where
  | error
  | warning
  deriving DecidableEq, Repr

namespace Severity

def name : Severity → String
  | error => "error"
  | warning => "warning"

def all : List Severity := [error, warning]

def ofName? (s : String) : Option Severity := all.find? (·.name = s)

def ofJson : Json → Decoded Severity := Decode.variant (all.map name) ofName?

end Severity

/-- What kind of thing a problem is about. -/
inductive Concern where
  | input
  | type
  | layout
  | naming
  deriving DecidableEq, Repr

namespace Concern

def name : Concern → String
  | input => "input"
  | type => "type"
  | layout => "layout"
  | naming => "naming"

def all : List Concern := [input, type, layout, naming]

def ofName? (s : String) : Option Concern := all.find? (·.name = s)

def ofJson : Json → Decoded Concern := Decode.variant (all.map name) ofName?

end Concern

structure Code where
  number : UInt16
  deriving DecidableEq, Repr

namespace Code

def invalidVocabulary : Code := ⟨1⟩
def unsupportedType : Code := ⟨100⟩
def unknownField : Code := ⟨200⟩
def duplicateEntry : Code := ⟨300⟩
def duplicateConnection : Code := ⟨301⟩

def concern (c : Code) : Concern :=
  if c.number < 100 then .input
  else if c.number < 200 then .type
  else if c.number < 300 then .layout
  else .naming

/-- The letter E and at least three digits. -/
def text (c : Code) : String :=
  let digits := Nat.toDigits 10 c.number.toNat
  String.ofList ('E' :: List.replicate (3 - digits.length) '0' ++ digits)

def ofJson (v : Json) : Decoded Code := do
  return ⟨(← Decode.natBelow 65536 "u16" v).toUInt16⟩

def toJson (c : Code) : Json := Json.nat c.number.toNat

end Code

/-- The place of a problem: an entry of a category, and a position in its template if the problem is
tied to one field. Both names are empty for a problem of the whole document. -/
structure Origin where
  category : String := ""
  entry : String := ""
  field : Option Nat := none
  deriving DecidableEq, Repr

namespace Origin

def document : Origin := {}

def text (o : Origin) : String :=
  if o.category = "" ∧ o.entry = "" then "<vocabulary>"
  else
    o.category ++ "/" ++ o.entry ++ match o.field with
      | some i => "[" ++ toString i ++ "]"
      | none => ""

def format : RecordFormat Origin where
  name := "Origin"
  fields := ["category", "entry", "field"]
  required := []
  start := {}
  set name v o :=
    match name with
    | "category" => return { o with category := ← Decode.string v }
    | "entry" => return { o with entry := ← Decode.string v }
    | "field" => return { o with field := ← Decode.nullable Decode.size v }
    | _ => return o

def ofJson : Json → Decoded Origin := format.read

def toJson (o : Origin) : Json :=
  .object ([("category", .text o.category), ("entry", .text o.entry)]
    ++ Json.optional "field" Json.nat o.field)

end Origin

structure Diagnostic where
  code : Code
  severity : Severity
  concern : Concern
  message : String
  origin : Origin
  suggestion : Option String := none
  deriving DecidableEq, Repr

namespace Diagnostic

def error (code : Code) (message : String) (origin : Origin) : Diagnostic :=
  ⟨code, .error, code.concern, message, origin, none⟩

def warning (code : Code) (message : String) (origin : Origin) : Diagnostic :=
  ⟨code, .warning, code.concern, message, origin, none⟩

def suggest (d : Diagnostic) (suggestion : String) : Diagnostic :=
  { d with suggestion := some suggestion }

def isError (d : Diagnostic) : Bool := d.severity = .error

/-- A diagnostic on one line. -/
def text (d : Diagnostic) : String :=
  d.severity.name ++ "[" ++ d.code.text ++ "] " ++ d.origin.text ++ ": " ++ d.message
    ++ " (" ++ d.concern.name ++ ")" ++ match d.suggestion with
      | some s => "; " ++ s
      | none => ""

def format : RecordFormat Diagnostic where
  name := "BlocError"
  fields := ["code", "severity", "category", "message", "origin", "suggestion"]
  required := ["code", "severity", "category", "message", "origin"]
  reached := ["code", "severity", "category", "message", "origin", "suggestion"]
  start := ⟨⟨0⟩, .error, .input, "", {}, none⟩
  set name v d :=
    match name with
    | "code" => return { d with code := ← Code.ofJson v }
    | "severity" => return { d with severity := ← Severity.ofJson v }
    | "category" => return { d with concern := ← Concern.ofJson v }
    | "message" => return { d with message := ← Decode.string v }
    | "origin" => return { d with origin := ← Origin.ofJson v }
    | "suggestion" => return { d with suggestion := ← Decode.nullable Decode.string v }
    | _ => return d

def ofJson : Json → Decoded Diagnostic := format.read

def toJson (d : Diagnostic) : Json :=
  .object ([("code", d.code.toJson), ("severity", .text d.severity.name),
      ("category", .text d.concern.name), ("message", .text d.message),
      ("origin", d.origin.toJson)]
    ++ Json.optional "suggestion" .text d.suggestion)

end Diagnostic

end BlockVocabulary
