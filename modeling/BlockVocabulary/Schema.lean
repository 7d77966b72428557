import BlockVocabulary.Layout

/-!
Block schemas: the compiled definition of a block type. A schema is a laid-out template with the way
the block attaches to others, its texts and its hooks.
-/

namespace BlockVocabulary

/-- How a block attaches to its neighbours. -/
inductive Shape where
  /-- It stacks in a sequence. -/
  | statement
  /-- It yields a value, of the type of the check token if there is one. -/
  | expression (output : Option String)
  deriving DecidableEq, Repr

structure BlockSchema where
  type : String
  rows : List Row
  shape : Shape
  inputsInline : Bool := false
  tooltip : String := ""
  colour : String
  hooks : Option Hooks := none

/-- Why an entry with a layout has no schema. -/
inductive AssembleError where
  | layout (error : LayoutError)
  /-- The output of an entry has the type of a sequence of statements. -/
  | voidOutput (entry : String)
  deriving DecidableEq, Repr

def AssembleError.message : AssembleError → String
  | .layout e => e.message
  | .voidOutput entry => "output connection of '" ++ entry ++ "' has type void"

def AssembleError.suggestion : AssembleError → String
  | .layout e => e.suggestion
  | .voidOutput _ => "omit the output connection to make a statement block"

/-- The shape of an entry, by its output connection. -/
def Entry.shape {ω : Type} (e : Entry ω) : Except AssembleError Shape :=
  match e.output with
  | none => .ok .statement
  | some c =>
    match c.resolve none with
    | .error error => .error (.layout error)
    | .ok t => if t.isStatement then .error (.voidOutput e.name) else .ok (.expression t.check)

/-- The schema of an entry with the given rows and colour. -/
def Entry.assemble {ω : Type} (e : Entry ω) (colour : String) (rows : List Row) :
    Except AssembleError BlockSchema := do
  return {
    type := e.name
    rows := rows
    shape := ← e.shape
    inputsInline := e.inputsInline
    tooltip := e.description
    colour := colour
    hooks := e.hooks }

namespace BlockSchema

def hasPrevious (s : BlockSchema) : Bool := s.shape = .statement

def hasNext (s : BlockSchema) : Bool := s.shape = .statement

def hasOutput (s : BlockSchema) : Bool := !s.hasPrevious

/-- The check token of the output; none for a statement and for an output of any type. -/
def outputCheck (s : BlockSchema) : Option String :=
  match s.shape with
  | .statement => none
  | .expression output => output

def isMutable (s : BlockSchema) : Bool := s.hooks.isSome

/-- The first row that ends in the named connection. -/
def input? (s : BlockSchema) (name : String) : Option Row :=
  s.rows.find? (·.connectionName? = some name)

/-- The rows that end in a place for a value. -/
def valueInputs (s : BlockSchema) : List Row := s.rows.filter (·.input.isValue)

def shapeMembers : Shape → List (String × Json)
  | .statement => [("shape", .text "statement")]
  | .expression output =>
    [("shape", .text "expression"), ("output", Json.ofOption .text output)]

def toJson (s : BlockSchema) : Json :=
  .object ([("type", .text s.type), ("rows", .list (s.rows.map Row.toJson))]
    ++ shapeMembers s.shape
    ++ [("inputsInline", .bool s.inputsInline), ("tooltip", .text s.tooltip),
      ("colour", .text s.colour), ("mutable", .bool s.isMutable)])

end BlockSchema

end BlockVocabulary
