import BlockVocabulary.Json.Decode

/-!
Widgets: the controls a user edits inside a block. A widget is a kind and further properties in
the editor's JSON form; its name belongs to the template element that holds it.
-/

namespace BlockVocabulary

structure Widget where
  kind : String
  properties : Table Json := Table.empty

/-- Makes a widget each time it is asked for one. What it makes may depend on a state, which sources
share and which making a widget may change. -/
abbrev WidgetSource (σ : Type) := StateM σ Widget

/-- Makes copies of one widget. -/
def WidgetSource.copies {σ : Type} (w : Widget) : WidgetSource σ := (pure w : StateM σ Widget)

namespace Widget

/-- The widget with one property set. -/
def set (w : Widget) (name : String) (v : Json) : Widget :=
  { w with properties := w.properties.insert name v }

def textInput (content : String) : Widget :=
  Widget.set ⟨"field_input", Table.empty⟩ "text" (.text content)

/-- A number input; a value that is not finite is kept as a null. -/
def numberInput (bits : UInt64) : Widget :=
  Widget.set ⟨"field_number", Table.empty⟩ "value" (Json.float bits)

def checkbox (checked : Bool) : Widget :=
  Widget.set ⟨"field_checkbox", Table.empty⟩ "checked" (.bool checked)

/-- A choice between options, each a label and a value. -/
def dropdown (options : List (String × String)) : Widget :=
  Widget.set ⟨"field_dropdown", Table.empty⟩ "options"
    (.list (options.map fun o => .list [.text o.1, .text o.2]))

/-- The kind as a property beside the others; a property called `type` takes its place. -/
def toJson (w : Widget) : Json := Json.sorted (("type", .text w.kind) :: w.properties.entries)

/-- A widget is read from an object only: its member `type` is the kind, all others properties. -/
def ofJson : Json → Decoded Widget
  | .object members =>
    match members.lookup "type" with
    | none => .error (.missingField "type")
    | some v => do
      return ⟨← Decode.string v, Table.ofList (members.filter (·.1 ≠ "type"))⟩
  | v => Decode.mismatch v "struct FieldWidget"

end Widget

end BlockVocabulary
