import BlockVocabulary.Json.Decode

/-!
Connections and their types. A connection carries the tag of a type from a closed set, or none;
the editor knows the type by a check token. `void` marks a place for a sequence of statements,
every other type a place for a value.
-/

namespace BlockVocabulary

inductive ConnectionType where
  | any
  | void
  | boolean
  | number
  | string
  | array
  | color
  deriving DecidableEq, Repr

namespace ConnectionType

/-- Every type, in the order in which they are documented. -/
def all : List ConnectionType := [any, void, boolean, number, string, array, color]

def tag : ConnectionType → String
  | any => "any"
  | void => "void"
  | boolean => "boolean"
  | number => "number"
  | string => "string"
  | array => "array"
  | color => "color"

def ofTag? (tag : String) : Option ConnectionType := all.find? (·.tag = tag)

/-- The type a declared tag stands for; no tag leaves the type open. -/
def ofDeclared? : Option String → Option ConnectionType
  | none => some any
  | some tag => ofTag? tag

/-- The editor's token; none for a place that accepts anything. -/
def check : ConnectionType → Option String
  | any => none
  | void => none
  | boolean => some "Boolean"
  | number => some "Number"
  | string => some "String"
  | array => some "Array"
  | color => some "Colour"

/-- The type of a value place with the given token. -/
def ofCheck? : Option String → Option ConnectionType
  | none => some any
  | some token => all.find? (·.check = some token)

def isStatement (t : ConnectionType) : Bool := t = void

@[simp] theorem ofTag?_tag (t : ConnectionType) : ofTag? t.tag = some t := by
  cases t <;> decide

theorem ofCheck?_check {t : ConnectionType} (h : t ≠ void) : ofCheck? t.check = some t := by
  cases t <;> first | contradiction | decide

end ConnectionType

/-- A connection as declared: a tag as written, a name, and the block type of a default child. -/
structure Connection where
  tag : Option String := none
  name : String := ""
  shadow : Option String := none
  deriving DecidableEq, Repr

namespace Connection

def type? (c : Connection) : Option ConnectionType := ConnectionType.ofDeclared? c.tag

def format : RecordFormat Connection where
  name := "TypedConnection"
  fields := ["type", "name", "shadow"]
  required := []
  start := {}
  set name v c :=
    match name with
    | "type" => return { c with tag := ← Decode.nullable Decode.string v }
    | "name" => return { c with name := ← Decode.string v }
    | "shadow" => return { c with shadow := ← Decode.nullable Decode.string v }
    | _ => return c

def ofJson : Json → Decoded Connection := format.read

def toJson (c : Connection) : Json :=
  .object ([("type", Json.ofOption .text c.tag), ("name", .text c.name)]
    ++ Json.optional "shadow" .text c.shadow)

end Connection

end BlockVocabulary
