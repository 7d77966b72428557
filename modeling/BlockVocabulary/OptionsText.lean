import BlockVocabulary.Json.Reader
import BlockVocabulary.Json.Skip
import BlockVocabulary.Options
import BlockVocabulary.Text.Blank

/-!
Options from JSON text, read in one pass without a value in between, so that every fault has a
place in the text: for a value of the wrong type the end of it, if it is a scalar, and for a name
given twice the colon after it.
-/

namespace BlockVocabulary

/-- Why a text holds no options. -/
inductive OptionsError where
  | malformed (cause : Json.Malformed)
  | invalid (error : DecodeError)

def OptionsError.message : OptionsError → String
  | .malformed cause => cause.message
  | .invalid e => e.message

namespace OptionsText

open Json

abbrev OptionsReading := Except (Fault OptionsError)

/-- A reading step that knows only the form of the text. -/
def formal {α : Type} (r : Reading α) : OptionsReading α :=
  r.mapError fun fault => ⟨.malformed fault.cause, fault.offset⟩

/-- Stops after what was taken. -/
def refuse {α : Type} (c : Cursor) (e : DecodeError) : OptionsReading α :=
  .error ⟨.invalid e, c.offset⟩

/-- Reports the value that stands in the place of the expected one. A list or an object is reported
where it begins. -/
def mismatch {α : Type} (c : Cursor) (expected : String) : OptionsReading α :=
  match c.rest with
  | [] => formal (c.stop .endInValue)
  | '[' :: _ => refuse c (.wrongType .list expected)
  | '\x7b' :: _ => refuse c (.wrongType .object expected)
  | _ => do
    let (v, c) ← formal (valueWithin 0 c)
    refuse c (.wrongType v.found expected)

def bool (c : Cursor) : OptionsReading (Bool × Cursor) :=
  let c := c.skipSpace
  match c.rest with
  | 't' :: _ => do return (true, ← formal (word "rue".toList c.advance))
  | 'f' :: _ => do return (false, ← formal (word "alse".toList c.advance))
  | _ => mismatch c "a boolean"

def string (c : Cursor) : OptionsReading (String × Cursor) :=
  let c := c.skipSpace
  match c.rest with
  | '"' :: _ => formal (stringAfterQuote c.advance)
  | _ => mismatch c "a string"

/-- The null that may follow a name inside an object. -/
def unit (c : Cursor) : OptionsReading Cursor :=
  let c := c.skipSpace
  match c.rest with
  | 'n' :: _ => formal (word "ull".toList c.advance)
  | _ => mismatch c "unit"

/-- One of several names, from its quote on. -/
def pick {α : Type} (names : List String) (ofName? : String → Option α) (c : Cursor) :
    OptionsReading (α × Cursor) := do
  let (s, c) ← formal (stringAfterQuote c.advance)
  match ofName? s with
  | some a => return (a, c)
  | none => refuse c (.unknownVariant s names)

/-- The only member of an object, after its opening brace: one of several names with a null. -/
def onlyMember {α : Type} (names : List String) (ofName? : String → Option α) (c : Cursor) :
    OptionsReading (α × Cursor) := do
  let c := c.skipSpace
  match c.rest with
  | [] => formal (c.stop .endInObject)
  | '\x7d' :: _ => formal (c.stop .valueExpected)
  | '"' :: _ =>
    let (a, c) ← pick names ofName? c
    let c := (← unit (← formal (colon c))).skipSpace
    match c.rest with
    | [] => formal (c.stop .endInObject)
    | '\x7d' :: _ => return (a, c.advance)
    | _ => formal (c.stopAfter 0 .valueExpected)
  | _ => formal (c.stop .keyNotString)

/-- One of several names, alone or as the only member of an object that holds a null. -/
def variant {α : Type} (names : List String) (ofName? : String → Option α) (c : Cursor) :
    OptionsReading (α × Cursor) :=
  let c := c.skipSpace
  match c.rest with
  | [] => formal (c.stop .endInValue)
  | '"' :: _ => pick names ofName? c
  | '\x7b' :: _ => onlyMember names ofName? c.advance
  | _ => formal (c.stop .valueExpected)

/-- The value of an option; the value under a name that is none is passed over. -/
def option (name : String) (o : Options) (c : Cursor) : OptionsReading (Options × Cursor) := do
  match name with
  | "unknown_fields" =>
    let (p, c) ← variant (UnknownFieldPolicy.all.map (·.name)) UnknownFieldPolicy.ofName? c
    return ({ o with unknownFields := p }, c)
  | "duplicates" =>
    let (p, c) ← variant (DuplicatePolicy.all.map (·.name)) DuplicatePolicy.ofName? c
    return ({ o with duplicates := p }, c)
  | "default_categories" =>
    let (b, c) ← bool c
    return ({ o with defaultCategories := b }, c)
  | "vocabulary" =>
    let (b, c) ← bool c
    return ({ o with vocabulary := b }, c)
  | "help_icon" =>
    let (s, c) ← string c
    return ({ o with helpIcon := s }, c)
  | _ => return (o, ← formal (skipValue c))

/-- The place at which a name given twice is reported: past the space after it, and past the end of
the object if that follows. -/
def afterName (c : Cursor) : Cursor :=
  let c := c.skipSpace
  if c.rest.head? = some '\x7d' then c.advance else c

/-- The members of an object from the quote of the first name to the closing brace. Every round
takes a character, so the length of the text bounds the rounds. -/
def membersFrom : Nat → List String → Options → Cursor → OptionsReading (Options × Cursor)
  | 0, _, _, c => formal (c.stop .endInObject)
  | rounds + 1, seen, o, c => do
    let (name, c) ← formal (stringAfterQuote c.advance)
    if name ∈ seen ∧ name ∈ Options.format.fields then
      refuse (afterName c) (.duplicateField name)
    let (o, c) ← option name o (← formal (colon c))
    let c := c.skipSpace
    match c.rest with
    | [] => formal (c.stop .endInObject)
    | '\x7d' :: _ => return (o, c.advance)
    | ',' :: _ =>
      let c := c.advance.skipSpace
      match c.rest with
      | [] => formal (c.stop .endInValue)
      | '"' :: _ => membersFrom rounds (name :: seen) o c
      | '\x7d' :: _ => formal (c.stop .trailingComma)
      | _ => formal (c.stop .keyNotString)
    | _ => formal (c.stop .objectEndExpected)

/-- An object, after its opening brace. -/
def object (c : Cursor) : OptionsReading (Options × Cursor) :=
  let c := c.skipSpace
  match c.rest with
  | [] => formal (c.stop .endInObject)
  | '\x7d' :: _ => .ok ({}, c.advance)
  | '"' :: _ => membersFrom c.rounds [] {} c
  | _ => formal (c.stop .keyNotString)

/-- The end of a list that has a value for every option. -/
def listEnd (c : Cursor) : OptionsReading Cursor :=
  let c := c.skipSpace
  match c.rest with
  | [] => formal (c.stop .endInList)
  | ']' :: _ => .ok c.advance
  | ',' :: _ =>
    let c := c.advance.skipSpace
    formal (c.stop (if c.rest.head? = some ']' then .trailingComma else .trailingCharacters))
  | _ => formal (c.stop .trailingCharacters)

/-- The items of a list for the named options; `first` says that no item has been read yet. -/
def items (first : Bool) (o : Options) : List String → Cursor →
    OptionsReading (Options × Cursor)
  | [], c => do return (o, ← listEnd c)
  | name :: names, c => do
    let c := c.skipSpace
    match c.rest with
    | [] => formal (c.stop .endInList)
    | ']' :: _ => return (o, c.advance)
    | x :: _ =>
      if first then
        let (o, c) ← option name o c
        items false o names c
      else if x = ',' then
        let c := c.advance.skipSpace
        match c.rest with
        | [] => formal (c.stop .endInValue)
        | ']' :: _ => formal (c.stop .trailingComma)
        | _ =>
          let (o, c) ← option name o c
          items false o names c
      else formal (c.stop .listEndExpected)

def document (c : Cursor) : OptionsReading Options := do
  let c := c.skipSpace
  let (o, c) ← match c.rest with
    | '[' :: _ => items true {} Options.format.fields c.advance
    | '\x7b' :: _ => object c.advance
    | _ => mismatch c ("struct " ++ Options.format.name)
  formal (finish c)
  return o

end OptionsText

/-- The options of a text, or the message about what is wrong and where; a blank text leaves every
option at its default. -/
def Options.ofText (text : String) : Except String Options :=
  if Text.isBlank text then .ok {}
  else
    (OptionsText.document (Json.Cursor.ofText text)).mapError fun fault =>
      let (line, column) := Json.lineAndColumn text fault.offset
      Json.placed fault.cause.message line column

end BlockVocabulary
