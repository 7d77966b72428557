import BlockVocabulary.Json.Basic

/-!
JSON text of a value, on one line or indented by two spaces a level. Members are written in the
order in which the object holds them.

The printer stands for a general one, of which this is assumed: a string is written as it is but for
quotes, backslashes and the characters below the space, of which five have a letter of their own; a
float is written by the shortest digits that read back to it; an empty list or object has nothing
between its brackets. What is written on one line can be read back.
-/

namespace BlockVocabulary.Json

/-- The two hexadecimal digits of a control character. -/
def controlDigits (n : Nat) : List Char := [Nat.digitChar (n / 16), Nat.digitChar (n % 16)]

def escapedChar (c : Char) : List Char :=
  match c with
  | '"' => ['\\', '"']
  | '\\' => ['\\', '\\']
  | '\x08' => ['\\', 'b']
  | '\x0c' => ['\\', 'f']
  | '\n' => ['\\', 'n']
  | '\r' => ['\\', 'r']
  | '\t' => ['\\', 't']
  | c => if c.toNat < 0x20 then ['\\', 'u', '0', '0'] ++ controlDigits c.toNat else [c]

/-- A string literal. -/
def literal (s : String) : String := String.ofList ('"' :: s.toList.flatMap escapedChar ++ ['"'])

mutual

/-- The text of a value without any space. -/
def compact : Json → String
  | .null => "null"
  | .bool b => if b then "true" else "false"
  | .number n => n.render
  | .text s => literal s
  | .list items => "[" ++ ",".intercalate (compactItems items) ++ "]"
  | .object members => "\x7b" ++ ",".intercalate (compactMembers members) ++ "\x7d"

def compactItems : List Json → List String
  | [] => []
  | item :: items => compact item :: compactItems items

def compactMembers : List (String × Json) → List String
  | [] => []
  | (name, value) :: members => (literal name ++ ":" ++ compact value) :: compactMembers members

end

def indent (depth : Nat) : String := String.ofList (List.replicate (2 * depth) ' ')

/-- Lines between an opening and a closing bracket, one level deeper than the brackets. -/
def bracketed (opening closing : String) (depth : Nat) (lines : List String) : String :=
  if lines.isEmpty then opening ++ closing
  else
    opening ++ "\n" ++ ",\n".intercalate (lines.map (indent (depth + 1) ++ ·)) ++ "\n"
      ++ indent depth ++ closing

mutual

/-- The text of a value that starts on a line of the given depth. -/
def prettyAt : Nat → Json → String
  | _, .null => "null"
  | _, .bool b => if b then "true" else "false"
  | _, .number n => n.render
  | _, .text s => literal s
  | depth, .list items => bracketed "[" "]" depth (prettyItems (depth + 1) items)
  | depth, .object members => bracketed "\x7b" "\x7d" depth (prettyMembers (depth + 1) members)

def prettyItems : Nat → List Json → List String
  | _, [] => []
  | depth, item :: items => prettyAt depth item :: prettyItems depth items

def prettyMembers : Nat → List (String × Json) → List String
  | _, [] => []
  | depth, (name, value) :: members =>
    (literal name ++ ": " ++ prettyAt depth value) :: prettyMembers depth members

end

/-- The text of a value over several lines. -/
def pretty (v : Json) : String := prettyAt 0 v

end BlockVocabulary.Json
