import BlockVocabulary.Connection
import BlockVocabulary.Widget
import BlockVocabulary.Generator

/-!
The vocabulary: categories of entries, an entry describing one block type by a template of fields.

A template element is a text, a widget or a connection, told apart by its shape, whether an object
with exactly the members of the shape or a list of their values in order. An element of any other
shape is kept as it is, so reading a template never fails.

What a template holds for a widget is a parameter: a vocabulary that is declared holds sources,
which make a widget whenever a block is compiled, and one that is read holds the widgets themselves.
-/

namespace BlockVocabulary

inductive Field (ω : Type := Widget) where
  /-- Label text; every line break in it starts a new row. -/
  | text (content : String)
  /-- A control under a name. -/
  | widget (name : String) (widget : ω)
  /-- A typed place for a child block. -/
  | connection (connection : Connection)
  | unrecognized (value : Json)

namespace Field

def text? : Json → Option Field
  | .object [("text", .text s)] => some (.text s)
  | .list [.text s] => some (.text s)
  | _ => none

def widget? : Json → Option Field
  | .object [("field", w), ("name", .text name)]
  | .object [("name", .text name), ("field", w)]
  | .list [.text name, w] => (Widget.ofJson w).toOption.map (.widget name)
  | _ => none

def connection? : Json → Option Field
  | .object [("blocklyInput", c)]
  | .list [c] => (Connection.ofJson c).toOption.map .connection
  | _ => none

def ofJson (v : Json) : Field :=
  (((text? v).or (widget? v)).or (connection? v)).getD (.unrecognized v)

/-- The element with `g` applied to what it holds for a widget. -/
def map {ω ω' : Type} (g : ω → ω') : Field ω → Field ω'
  | .text content => .text content
  | .widget name w => .widget name (g w)
  | .connection c => .connection c
  | .unrecognized v => .unrecognized v

/-- The element with its widget made. -/
def make {σ : Type} : Field (WidgetSource σ) → StateM σ Field
  | .text content => return .text content
  | .widget name source => return .widget name (← source)
  | .connection c => return .connection c
  | .unrecognized v => return .unrecognized v

end Field

/-- A declaration of a block type. -/
structure Entry (ω : Type := Widget) where
  name : String
  description : String := ""
  template : List (Field ω) := []
  /-- Present for a block that yields a value. -/
  output : Option Connection := none
  inputsInline : Bool := false
  hooks : Option Hooks := none
  generator : Generator := Generator.silent

def Entry.map {ω ω' : Type} (g : ω → ω') (e : Entry ω) : Entry ω' :=
  { e with template := e.template.map (Field.map g) }

def Entry.format : RecordFormat Entry where
  name := "Entry"
  fields := ["name", "description", "template", "outputConnection", "inputsInline", "generator"]
  required := ["name"]
  start := { name := "" }
  set name v e :=
    match name with
    | "name" => return { e with name := ← Decode.string v }
    | "description" => return { e with description := ← Decode.string v }
    | "template" => return { e with template := ← Decode.list (fun v => .ok (Field.ofJson v)) v }
    | "outputConnection" => return { e with output := ← Decode.nullable Connection.ofJson v }
    | "inputsInline" => return { e with inputsInline := ← Decode.bool v }
    | "generator" => return { e with generator := Generator.ofTemplate (← Decode.string v) }
    | _ => return e

def Entry.ofJson : Json → Decoded Entry := Entry.format.read

/-- The colour of a category that gives none. -/
def defaultColour : String := "#000000"

structure Category (ω : Type := Widget) where
  name : String
  /-- The colour of all blocks of the category. -/
  colour : String := defaultColour
  entries : List (Entry ω) := []

def Category.map {ω ω' : Type} (g : ω → ω') (c : Category ω) : Category ω' :=
  { c with entries := c.entries.map (Entry.map g) }

/-- The category as it is declared after reading: every widget is a copy of the one that was
read. -/
def Category.declared {σ : Type} (c : Category) : Category (WidgetSource σ) :=
  c.map WidgetSource.copies

def Category.format : RecordFormat Category where
  name := "Category"
  fields := ["name", "color", "entries"]
  required := ["name"]
  rename name := if name = "colour" then "color" else name
  start := { name := "" }
  set name v c :=
    match name with
    | "name" => return { c with name := ← Decode.string v }
    | "color" => return { c with colour := ← Decode.string v }
    | "entries" => return { c with entries := ← Decode.list Entry.ofJson v }
    | _ => return c

def Category.ofJson : Json → Decoded Category := Category.format.read

end BlockVocabulary
