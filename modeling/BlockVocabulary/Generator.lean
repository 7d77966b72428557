import BlockVocabulary.Block

/-!
Code generators. A generator turns a live block into code; most are given by a template with named
slots.

In a template `\x7b\x7b` and `\x7d\x7d` stand for single braces, and an identifier between braces is
a slot for the value of the widget of that name, or else the code of the input of that name, or else
nothing. Any other brace stands for itself. A template is read from left to right, and what is read is
written out at once.
-/

namespace BlockVocabulary

structure Generator where
  generate : Block → String

/-- A letter or an underscore, and then letters, digits and underscores. -/
def isIdentifier : List Char → Bool
  | [] => false
  | c :: cs => (c.isAlpha || c = '_') && cs.all fun c => c.isAlphanum || c = '_'

/-- A name that can stand in a slot. -/
structure Identifier where
  chars : List Char
  isIdentifier : isIdentifier chars = true
  deriving DecidableEq

namespace Identifier

def text (n : Identifier) : String := String.ofList n.chars

def ofChars? (cs : List Char) : Option Identifier :=
  if h : BlockVocabulary.isIdentifier cs = true then some ⟨cs, h⟩ else none

/-- What stands in front of the first closing brace of a text, if it is an identifier. -/
def closed? (cs : List Char) : Option Identifier :=
  if '\x7d' ∈ cs then ofChars? (cs.takeWhile (· ≠ '\x7d')) else none

end Identifier

/-- What a slot of the given name stands for. -/
def Block.codeOf (b : Block) (name : String) : String :=
  ((b.fieldValue name).or (b.inputCode name)).getD ""

namespace Generator

/-- The code of a template, written behind what is there already. -/
def write (b : Block) (code : String) : List Char → String
  | [] => code
  | '\x7b' :: '\x7b' :: rest => write b (code.push '\x7b') rest
  | '\x7d' :: '\x7d' :: rest => write b (code.push '\x7d') rest
  | '\x7b' :: rest =>
    match Identifier.closed? rest with
    | some name => write b (code ++ b.codeOf name.text) (rest.drop (name.chars.length + 1))
    | none => write b (code.push '\x7b') rest
  | c :: rest => write b (code.push c) rest
termination_by cs => cs.length
decreasing_by all_goals (simp only [List.length_cons, List.length_drop]; omega)

def ofTemplate (template : String) : Generator where
  generate b := write b "" template.toList

/-- The generator that emits nothing. -/
def silent : Generator := ofTemplate ""

end Generator

end BlockVocabulary
