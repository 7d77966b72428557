import BlockVocabulary.Schema

/-!
Block definitions as the editor takes them: one message and a list of arguments.

The message is a sequence of words with single spaces between them. A label is a word as it stands,
with every percent sign doubled; anything else is an argument, and its word is a percent sign with
the number of the argument, counted from one over the whole block. Every row contributes its
fragments and then its input.
-/

namespace BlockVocabulary

/-- A part of a message. -/
inductive MessageItem where
  | label (text : String)
  | argument (value : Json)

namespace MessageItem

def argument? : MessageItem → Option Json
  | label _ => none
  | argument v => some v

end MessageItem

/-- The side of the help image. -/
def helpIconSize : Nat := 16

/-- The arguments of a widget: its kind, its name, and its properties, which go before both. -/
def Widget.argument (name : String) (w : Widget) : Json :=
  Json.sorted ([("type", .text w.kind), ("name", .text name)] ++ w.properties.entries)

def Fragment.messageItem : Fragment → MessageItem
  | .label text => .label text
  | .widget name w => .argument (w.argument name)
  | .help source => .argument (Json.sorted
      [("type", .text "field_image"), ("src", .text source), ("width", Json.nat helpIconSize),
       ("height", Json.nat helpIconSize), ("alt", .text "?")])

def Input.argument : Input → Json
  | .dummy => Json.sorted [("type", .text "input_dummy")]
  | .value name check _ =>
    Json.sorted ([("type", .text "input_value"), ("name", .text name)]
      ++ Json.optional "check" .text check)
  | .statement name _ => Json.sorted [("type", .text "input_statement"), ("name", .text name)]

def Row.messageItems (r : Row) : List MessageItem :=
  r.fragments.map Fragment.messageItem ++ [.argument r.input.argument]

/-- A label with every percent sign doubled. -/
def escapePercent (cs : List Char) : List Char :=
  cs.flatMap fun c => if c = '%' then ['%', '%'] else [c]

/-- The words of a message, `k` arguments having gone before. -/
def messageWords : Nat → List MessageItem → List (List Char)
  | _, [] => []
  | k, .label text :: items => escapePercent text.toList :: messageWords k items
  | k, .argument _ :: items => ('%' :: Nat.toDigits 10 (k + 1)) :: messageWords (k + 1) items

namespace BlockSchema

def messageItems (s : BlockSchema) : List MessageItem := s.rows.flatMap Row.messageItems

def message (s : BlockSchema) : String :=
  String.ofList ([' '].intercalate (messageWords 0 s.messageItems))

def arguments (s : BlockSchema) : List Json := s.messageItems.filterMap MessageItem.argument?

def connectionMembers : Shape → List (String × Json)
  | .statement => [("previousStatement", .null), ("nextStatement", .null)]
  | .expression output => [("output", Json.ofOption .text output)]

def definition (s : BlockSchema) : Json :=
  Json.sorted ([("type", .text s.type), ("message0", .text s.message),
      ("args0", .list s.arguments)]
    ++ connectionMembers s.shape
    ++ [("colour", .text s.colour), ("tooltip", .text s.tooltip),
      ("inputsInline", .bool s.inputsInline)])

/-- What is found in every definition. -/
theorem get?_definition (s : BlockSchema) :
    s.definition.get? "type" = some (.text s.type) ∧
    s.definition.get? "message0" = some (.text s.message) ∧
    s.definition.get? "args0" = some (.list s.arguments) ∧
    s.definition.get? "colour" = some (.text s.colour) ∧
    s.definition.get? "tooltip" = some (.text s.tooltip) ∧
    s.definition.get? "inputsInline" = some (.bool s.inputsInline) := by
  rcases hs : s.shape with _ | output <;>
    simp [definition, Json.sorted, Json.get?, Keyed.lookup_ofList, connectionMembers, hs,
      List.lookup_cons]

/-- By its connections a statement is told from a block that yields a value. -/
theorem get?_definition_connections (s : BlockSchema) :
    (s.definition.get? "output", s.definition.get? "previousStatement",
        s.definition.get? "nextStatement") =
      match s.shape with
      | .statement => (none, some .null, some .null)
      | .expression output => (some (Json.ofOption .text output), none, none) := by
  rcases hs : s.shape with _ | output <;>
    simp [definition, Json.sorted, Json.get?, Keyed.lookup_ofList, connectionMembers, hs,
      List.lookup_cons]

end BlockSchema

end BlockVocabulary
