import BlockVocabulary.Entry
import BlockVocabulary.Options
import BlockVocabulary.Row
import BlockVocabulary.Text.Lines

/-!
Laying out a template: one pass over the fields from left to right, with at most one row open.

Text goes to the open row, and every further line of it to a row of its own. A widget goes to the
open row. A connection for a value closes the open row, stands on a row of its own and leaves an
empty row open; a connection for statements becomes the open row, which the next fields continue.
The help affordance ends the last row. Text and widgets open a dummy row if none is open.
-/

namespace BlockVocabulary

/-- Why a template cannot be laid out. -/
inductive LayoutError where
  /-- A connection has a tag outside the closed set; an output connection is no template field. -/
  | unsupportedType (tag connection : String) (field : Option Nat)
  /-- A template element is no text, widget or connection. -/
  | unknownField (field : Nat)
  deriving DecidableEq, Repr

namespace LayoutError

/-- The template element at fault. -/
def field? : LayoutError → Option Nat
  | unsupportedType _ _ field => field
  | unknownField field => some field

def message : LayoutError → String
  | unsupportedType tag connection _ =>
    "unsupported connection type '" ++ tag ++ "' on connection '" ++ connection ++ "'"
  | unknownField field =>
    "template field " ++ toString field ++ " is not a text, widget or connection field"

def suggestion : LayoutError → String
  | unsupportedType .. => "use one of: " ++ ", ".intercalate (ConnectionType.all.map (·.tag))
  | unknownField _ =>
    "expected \x7b\"text\"\x7d, \x7b\"name\", \"field\"\x7d or \x7b\"blocklyInput\"\x7d"

end LayoutError

/-- The type of a connection at a template position, or of an output connection. -/
def Connection.resolve (c : Connection) (field : Option Nat) : Except LayoutError ConnectionType :=
  match c.type? with
  | some t => .ok t
  | none => .error (.unsupportedType (c.tag.getD "") c.name field)

/-- The rows of a template, the names of its connections in order, repeated ones included, and the
positions of the elements left out. -/
structure Layout where
  rows : List Row
  connections : List String
  skipped : List Nat

/-- The pass over a template: the rows that are finished and the open one. -/
structure LayoutState where
  committed : List Row := []
  current : Option Row := none
  connections : List String := []
  skipped : List Nat := []

namespace LayoutState

def empty : LayoutState := {}

/-- With the open row finished. -/
def commit (s : LayoutState) : LayoutState :=
  { s with committed := s.committed ++ s.current.toList, current := none }

/-- With the open row finished and `r` open. -/
def begin (s : LayoutState) (r : Row) : LayoutState := { s.commit with current := some r }

/-- With `f` applied to the open row, a dummy row if there is none. -/
def onRow (s : LayoutState) (f : Row → Row) : LayoutState :=
  { s with current := some (f (s.current.getD Row.dummy)) }

def label (s : LayoutState) (text : String) : LayoutState := s.onRow (·.pushLabel text)

/-- Label text: its first line continues the open row, each further line begins a row. -/
def text (s : LayoutState) (content : String) : LayoutState :=
  match Text.segments content with
  | [] => s
  | first :: further => further.foldl (fun s line => (s.begin Row.dummy).label line) (s.label first)

def widget (s : LayoutState) (name : String) (w : Widget) : LayoutState :=
  s.onRow (·.push (.widget name w))

/-- A connection of the given type. -/
def connection (s : LayoutState) (c : Connection) (t : ConnectionType) : LayoutState :=
  let s := { s with connections := s.connections ++ [c.name] }
  if t.isStatement then s.begin ⟨.statement c.name c.shadow, []⟩
  else (s.begin ⟨.value c.name t.check c.shadow, []⟩).begin Row.dummy

/-- Takes the field at a template position. -/
def feed (policy : UnknownFieldPolicy) (s : LayoutState) (index : Nat) :
    Field → Except LayoutError LayoutState
  | .text content => .ok (s.text content)
  | .widget name w => .ok (s.widget name w)
  | .connection c => do return s.connection c (← c.resolve (some index))
  | .unrecognized _ =>
    match policy with
    | .failFast => .error (.unknownField index)
    | .permissive => .ok { s with skipped := s.skipped ++ [index] }

/-- Takes fields from a template position on, up to the first that fails. -/
def feedAll (policy : UnknownFieldPolicy) (s : LayoutState) (index : Nat) :
    List Field → Except LayoutError LayoutState
  | [] => .ok s
  | f :: fs => do (← s.feed policy index f).feedAll policy (index + 1) fs

/-- Ends the pass with the help affordance. -/
def finish (s : LayoutState) (helpIcon : String) : Layout :=
  let s := (s.onRow (·.push (.help helpIcon))).commit
  ⟨s.committed, s.connections, s.skipped⟩

end LayoutState

/-- Lays out a whole template. -/
def layOut (o : LayoutOptions) (template : List Field) : Except LayoutError Layout := do
  return (← LayoutState.empty.feedAll o.unknownFields 0 template).finish o.helpIcon

end BlockVocabulary
