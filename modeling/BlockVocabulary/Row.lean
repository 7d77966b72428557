import BlockVocabulary.Widget

/-!
Rows: the horizontal lines of a block. A row holds fragments and ends in an input.
-/

namespace BlockVocabulary

/-- What a row ends in. -/
inductive Input where
  /-- No connection. -/
  | dummy
  /-- A place for a value, of the type of the check token if there is one. -/
  | value (name : String) (check : Option String) (shadow : Option String)
  /-- A place for a sequence of statements. -/
  | statement (name : String) (shadow : Option String)
  deriving DecidableEq, Repr

namespace Input

def name? : Input → Option String
  | dummy => none
  | value name _ _ => some name
  | statement name _ => some name

/-- The block type of the default child. -/
def shadow? : Input → Option String
  | dummy => none
  | value _ _ shadow => shadow
  | statement _ shadow => shadow

def isValue : Input → Bool
  | value .. => true
  | _ => false

/-- A block type in an object. -/
def typeJson (type : String) : Json := .object [("type", .text type)]

def toJson : Input → Json
  | dummy => .object [("kind", .text "dummy")]
  | value name check shadow =>
    .object ([("kind", .text "value"), ("name", .text name)]
      ++ Json.optional "check" .text check ++ Json.optional "shadow" typeJson shadow)
  | statement name shadow =>
    .object ([("kind", .text "statement"), ("name", .text name)]
      ++ Json.optional "shadow" typeJson shadow)

end Input

inductive Fragment where
  | label (text : String)
  | widget (name : String) (widget : Widget)
  /-- The help affordance, showing the image at `source`. -/
  | help (source : String)

namespace Fragment

def label? : Fragment → Option String
  | label text => some text
  | _ => none

def isHelp : Fragment → Bool
  | help _ => true
  | _ => false

def toJson : Fragment → Json
  | label text => .object [("kind", .text "label"), ("text", .text text)]
  | widget name w => .object [("kind", .text "widget"), ("name", .text name), ("widget", w.toJson)]
  | help source => .object [("kind", .text "help"), ("src", .text source)]

end Fragment

structure Row where
  input : Input
  fragments : List Fragment := []

namespace Row

def dummy : Row := ⟨.dummy, []⟩

def push (r : Row) (f : Fragment) : Row := { r with fragments := r.fragments ++ [f] }

/-- The row with label text at its end; empty text adds nothing. -/
def pushLabel (r : Row) (text : String) : Row := if text = "" then r else r.push (.label text)

def isDummy (r : Row) : Bool := r.input = .dummy

/-- No connection and no content. -/
def isEmptyDummy (r : Row) : Bool := r.isDummy && r.fragments.isEmpty

def connectionName? (r : Row) : Option String := r.input.name?

def shadow? (r : Row) : Option String := r.input.shadow?

def labels (r : Row) : List String := r.fragments.filterMap Fragment.label?

def hasHelp (r : Row) : Bool := r.fragments.any Fragment.isHelp

def toJson (r : Row) : Json :=
  .object [("input", r.input.toJson), ("fragments", .list (r.fragments.map Fragment.toJson))]

end Row

end BlockVocabulary
