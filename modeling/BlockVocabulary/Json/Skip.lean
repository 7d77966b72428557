import BlockVocabulary.Json.Token

/-!
Passing over a value in JSON text without building it. Nothing limits the nesting here, numbers
need no value and surrogates no partner; only the form of the text is checked.
-/

namespace BlockVocabulary.Json

namespace Skip

def digits (c : Cursor) : Cursor := c.skip (c.rest.takeWhile Char.isDigit).length

/-- At least one digit. -/
def someDigits (c : Cursor) : Reading Cursor :=
  match c.rest with
  | x :: _ => if x.isDigit then .ok (digits c) else c.stopAfter 1 .badNumber
  | [] => c.stopAfter 0 .badNumber

def exponent (c : Cursor) : Reading Cursor :=
  match c.rest with
  | x :: y :: _ =>
    if x = 'e' || x = 'E' then
      someDigits (if y = '+' || y = '-' then c.skip 2 else c.skip 1)
    else .ok c
  | [x] => if x = 'e' || x = 'E' then someDigits (c.skip 1) else .ok c
  | [] => .ok c

/-- A number, from its sign or first digit on. -/
def number (c : Cursor) : Reading Cursor := do
  let c := if c.rest.head? = some '-' then c.advance else c
  let after ← someDigits c
  if c.rest.head? = some '0' && after.offset ≠ c.offset + 1 then (c.skip 1).stop .badNumber
  match after.rest with
  | '.' :: _ =>
    let decimals := after.advance
    let afterDecimals := digits decimals
    if afterDecimals.offset = decimals.offset then decimals.stop .badNumber
    exponent afterDecimals
  | _ => exponent after

def escape (c : Cursor) : Reading Cursor :=
  match c.rest with
  | [] => c.stop .endInString
  | 'u' :: _ => do return (← hex4 c.advance).2
  | x :: _ => if (escapeLetter? x).isSome then .ok c.advance else c.stopAfter 1 .badEscape

/-- The rest of a string up to its closing quote. Every round takes a character, so the length of
the text bounds the rounds. -/
def stringFrom : Nat → Cursor → Reading Cursor
  | 0, c => c.stop .endInString
  | rounds + 1, c =>
    match c.rest with
    | [] => c.stop .endInString
    | '"' :: _ => .ok c.advance
    | '\\' :: _ => do stringFrom rounds (← escape c.advance)
    | x :: _ =>
      if x.toNat < 0x20 then c.stopAfter 0 .controlCharacter else stringFrom rounds c.advance

/-- A string, after its opening quote. -/
def string (c : Cursor) : Reading Cursor := stringFrom c.rounds c

/-- A list or an object that has been opened. -/
inductive Frame where
  | list
  | object
  deriving DecidableEq

namespace Frame

def closer : Frame → Char
  | list => ']'
  | object => '\x7d'

def endInside : Frame → Malformed
  | list => .endInList
  | object => .endInObject

def endExpected : Frame → Malformed
  | list => .listEndExpected
  | object => .objectEndExpected

end Frame

/-- Closes frames, innermost first, up to a comma or to the first value of a frame just opened;
`filled` says whether the innermost frame holds a value already. No frame is left when the whole
value has been passed. -/
def close (filled : Bool) : List Frame → Cursor → Reading (List Frame × Cursor)
  | [], c => .ok ([], c)
  | frame :: frames, c =>
    let c := c.skipSpace
    match c.rest with
    | [] => c.stop frame.endInside
    | x :: _ =>
      if filled && x = ',' then .ok (frame :: frames, c.advance)
      else if x = frame.closer then close true frames c.advance
      else if filled then c.stop frame.endExpected
      else .ok (frame :: frames, c)

/-- A name and its colon. -/
def name (c : Cursor) : Reading Cursor := do
  let c := c.skipSpace
  match c.rest with
  | [] => c.stop .endInObject
  | '"' :: _ =>
    let c := (← string c.advance).skipSpace
    match c.rest with
    | [] => c.stop .endInObject
    | ':' :: _ => return c.advance
    | _ => c.stop .colonExpected
  | _ => c.stop .keyNotString

/-- A scalar, or the opening of a frame. -/
def start (c : Cursor) : Reading (Option Frame × Cursor) :=
  match c.rest with
  | [] => c.stop .endInValue
  | 'n' :: _ => do return (none, ← word "ull".toList c.advance)
  | 't' :: _ => do return (none, ← word "rue".toList c.advance)
  | 'f' :: _ => do return (none, ← word "alse".toList c.advance)
  | '"' :: _ => do return (none, ← string c.advance)
  | '[' :: _ => .ok (some .list, c.advance)
  | '\x7b' :: _ => .ok (some .object, c.advance)
  | x :: _ =>
    if x = '-' || x.isDigit then do return (none, ← number c) else c.stop .valueExpected

/-- The rest of a value inside the given frames. Every round takes a character, so the length of the
text bounds the rounds. -/
def valueFrom : Nat → List Frame → Cursor → Reading Cursor
  | 0, _, c => c.stop .endInValue
  | rounds + 1, frames, c => do
    let (opened, c) ← start c.skipSpace
    let (frames, c) ← close opened.isNone (opened.toList ++ frames) c
    match frames with
    | [] => return c
    | .list :: _ => valueFrom rounds frames c
    | .object :: _ => valueFrom rounds frames (← name c)

end Skip

/-- After the next value. -/
def skipValue (c : Cursor) : Reading Cursor := Skip.valueFrom c.rounds [] c

end BlockVocabulary.Json
