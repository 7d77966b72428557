/-!
A position in JSON text, and why reading stopped there.

Positions count bytes. Two bytes matter to a reader that stops: the one it has looked at and the
one it has taken, so a fault lies either just after what was taken or one byte further.
-/

namespace BlockVocabulary.Json

/-- What is wrong with a text as JSON. -/
inductive Malformed where
  | endInValue
  | endInList
  | endInObject
  | endInString
  | valueExpected
  | wordExpected
  | badNumber
  | numberOutOfRange
  | listEndExpected
  | objectEndExpected
  | colonExpected
  | keyNotString
  | trailingComma
  | trailingCharacters
  | tooDeep
  | controlCharacter
  | badEscape
  | loneSurrogate
  | surrogateCut
  deriving DecidableEq, Repr

def Malformed.message : Malformed → String
  | .endInValue => "EOF while parsing a value"
  | .endInList => "EOF while parsing a list"
  | .endInObject => "EOF while parsing an object"
  | .endInString => "EOF while parsing a string"
  | .valueExpected => "expected value"
  | .wordExpected => "expected ident"
  | .badNumber => "invalid number"
  | .numberOutOfRange => "number out of range"
  | .listEndExpected => "expected \x60,\x60 or \x60]\x60"
  | .objectEndExpected => "expected \x60,\x60 or \x60\x7d\x60"
  | .colonExpected => "expected \x60:\x60"
  | .keyNotString => "key must be a string"
  | .trailingComma => "trailing comma"
  | .trailingCharacters => "trailing characters"
  | .tooDeep => "recursion limit exceeded"
  | .controlCharacter => "control character (\\u0000-\\u001F) found while parsing a string"
  | .badEscape => "invalid escape"
  | .loneSurrogate => "lone leading surrogate in hex escape"
  | .surrogateCut => "unexpected end of hex escape"

/-- A cause with the number of bytes before the place it is reported at. -/
structure Fault (ε : Type) where
  cause : ε
  offset : Nat

/-- What reading gives, or where and why it stopped. -/
abbrev Reading := Except (Fault Malformed)

/-- The characters still to be read and the number of bytes already read. -/
structure Cursor where
  rest : List Char
  offset : Nat
  /-- More than the characters still to be read: how often a loop that takes one each time may go
  round. -/
  rounds : Nat

namespace Cursor

def ofText (source : String) : Cursor :=
  let characters := source.toList
  ⟨characters, 0, characters.length + 1⟩

/-- After the next character. -/
def advance (c : Cursor) : Cursor :=
  match c.rest with
  | [] => c
  | x :: xs => { c with rest := xs, offset := c.offset + x.utf8Size }

/-- After the next `n` characters, each of one byte. -/
def skip (c : Cursor) (n : Nat) : Cursor :=
  { c with rest := c.rest.drop n, offset := c.offset + n }

def isSpace (x : Char) : Bool := x = ' ' || x = '\t' || x = '\n' || x = '\r'

/-- After spaces, tabs and line breaks. -/
def skipSpace (c : Cursor) : Cursor := c.skip (c.rest.takeWhile isSpace).length

/-- The place of the byte looked at: one past what was taken, or the end of the text. -/
def lookedAt (c : Cursor) : Nat := if c.rest.isEmpty then c.offset else c.offset + 1

/-- Stops at the byte looked at. -/
def stop {α : Type} (c : Cursor) (cause : Malformed) : Reading α :=
  .error ⟨cause, c.lookedAt⟩

/-- Stops `n` bytes past what was taken. -/
def stopAfter {α : Type} (c : Cursor) (n : Nat) (cause : Malformed) : Reading α :=
  .error ⟨cause, c.offset + n⟩

end Cursor

/-- The line and the column of a byte: lines count from one, columns count the bytes since the
line began. -/
def lineAndColumn (source : String) (offset : Nat) : Nat × Nat :=
  let (_, line, start) := source.toList.foldl (fun (passed, line, start) x =>
    if x = '\n' && passed < offset then (passed + 1, line + 1, passed + 1)
    else (passed + x.utf8Size, line, start)) (0, 1, 0)
  (line, offset - start)

/-- A message with the place it belongs to. -/
def placed (message : String) (line column : Nat) : String :=
  message ++ " at line " ++ toString line ++ " column " ++ toString column

end BlockVocabulary.Json
