import BlockVocabulary.Decimal.Binary
import BlockVocabulary.Toml.Basic

/-!
TOML documents from text. A reading function takes characters and gives a value with the characters
after it, or nothing when the text is wrong; what is wrong is not told.

The reader stands for a general one, of which this is assumed: it takes the texts of the TOML
grammar and no others; whole numbers have 64 bits; no key and no table is given twice, and a table
in one line is complete; values and keys nest at most `nestingLimit` deep. No option is a float or a
time, so that a text holds one is all that is kept of it.
-/

namespace BlockVocabulary.Toml

abbrev Rest := List Char

def isSpace (c : Char) : Bool := c = ' ' || c = '\t'

/-- Characters that may stand in a comment or as they are inside quotes. -/
def isPlain (c : Char) : Bool := c = '\t' || (0x20 ≤ c.toNat && c.toNat ≠ 0x7f)

def skipSpace (cs : Rest) : Rest := cs.dropWhile isSpace

def comment (cs : Rest) : Rest :=
  match cs with
  | '#' :: cs => cs.dropWhile isPlain
  | cs => cs

def newline? : Rest → Option Rest
  | '\n' :: cs => some cs
  | '\r' :: '\n' :: cs => some cs
  | _ => none

def expect (c : Char) : Rest → Option Rest
  | x :: cs => if x = c then some cs else none
  | [] => none

/-- Space, comments and line breaks. Every round takes a character. -/
def skipLines : Nat → Rest → Rest
  | 0, cs => cs
  | rounds + 1, cs =>
    let after := comment (skipSpace cs)
    match newline? after with
    | some cs => skipLines rounds cs
    | none => after

def blank (cs : Rest) : Rest := skipLines (cs.length + 1) cs

/-! ### Strings -/

def hexDigit? (x : Char) : Option Nat :=
  if x.isDigit then some (x.toNat - '0'.toNat)
  else if 'a' ≤ x && x ≤ 'f' then some (x.toNat - 'a'.toNat + 10)
  else if 'A' ≤ x && x ≤ 'F' then some (x.toNat - 'A'.toNat + 10)
  else none

/-- A character given by `n` hexadecimal digits; surrogates are no characters. -/
def unicode (n : Nat) (cs : Rest) : Option (Char × Rest) := do
  let ds := cs.take n
  if ds.length < n then none
  let value := (← ds.mapM hexDigit?).foldl (fun v d => 16 * v + d) 0
  if value < 0xd800 || (0xdfff < value && value < 0x110000) then
    return (Char.ofNat value, cs.drop n)
  else none

def escape : Rest → Option (Char × Rest)
  | 'b' :: cs => some ('\x08', cs)
  | 't' :: cs => some ('\t', cs)
  | 'n' :: cs => some ('\n', cs)
  | 'f' :: cs => some ('\x0c', cs)
  | 'r' :: cs => some ('\r', cs)
  | '"' :: cs => some ('"', cs)
  | '\\' :: cs => some ('\\', cs)
  | 'u' :: cs => unicode 4 cs
  | 'U' :: cs => unicode 8 cs
  | _ => none

/-- The rest of a one-line string up to the quote `q`; a backslash escapes between double quotes
only. -/
def oneLine (q : Char) : Nat → List Char → Rest → Option (String × Rest)
  | 0, _, _ => none
  | rounds + 1, done, cs =>
    match cs with
    | [] => none
    | c :: cs =>
      if c = q then some (String.ofList done.reverse, cs)
      else if c = '\\' && q = '"' then do
        let (x, cs) ← escape cs
        oneLine q rounds (x :: done) cs
      else if isPlain c then oneLine q rounds (c :: done) cs
      else none

/-- Past space and line breaks. -/
def skipBreaks : Rest → Rest
  | ' ' :: cs => skipBreaks cs
  | '\t' :: cs => skipBreaks cs
  | '\n' :: cs => skipBreaks cs
  | '\r' :: '\n' :: cs => skipBreaks cs
  | cs => cs

/-- After a backslash at the end of a line: up to the next text. -/
def joinLines (cs : Rest) : Option Rest := do return skipBreaks (← newline? (skipSpace cs))

/-- The rest of a string up to three quotes `q`; up to two more may end its content. -/
def manyLines (q : Char) : Nat → List Char → Rest → Option (String × Rest)
  | 0, _, _ => none
  | rounds + 1, done, cs =>
    match cs with
    | [] => none
    | c :: rest =>
      if c = q then
        let run := (cs.takeWhile (· = q)).length
        if run < 3 then manyLines q rounds (c :: done) rest
        else if run ≤ 5 then
          some (String.ofList (done.reverse ++ List.replicate (run - 3) q), cs.drop run)
        else none
      else if c = '\\' && q = '"' then
        match joinLines rest with
        | some cs => manyLines q rounds done cs
        | none => do
          let (x, cs) ← escape rest
          manyLines q rounds (x :: done) cs
      else match newline? cs with
        | some cs => manyLines q rounds ('\n' :: done) cs
        | none => if isPlain c then manyLines q rounds (c :: done) rest else none

/-- A string between quotes of the kind `q`, from the quote on. -/
def quotedLine (q : Char) (cs : Rest) : Option (String × Rest) :=
  oneLine q (cs.length + 1) [] (cs.drop 1)

/-- A string of either form, from its first quote on; a line break right after three quotes does not
count. -/
def quoted (q : Char) (cs : Rest) : Option (String × Rest) :=
  if cs.take 3 = [q, q, q] then
    let content := cs.drop 3
    manyLines q (cs.length + 1) [] ((newline? content).getD content)
  else quotedLine q cs

/-! ### Numbers and times -/

/-- Digits with single underscores between them. -/
def digits (isDigit : Char → Bool) : Nat → Rest → Option (List Char × Rest)
  | 0, _ => none
  | rounds + 1, cs =>
    match cs with
    | c :: '_' :: rest =>
      if isDigit c then (digits isDigit rounds rest).map fun r => (c :: r.1, r.2) else none
    | c :: rest =>
      if isDigit c then
        match rest with
        | d :: _ =>
          if isDigit d then (digits isDigit rounds rest).map fun r => (c :: r.1, r.2)
          else some ([c], rest)
        | [] => some ([c], [])
      else none
    | [] => none

def someDigits (isDigit : Char → Bool) (cs : Rest) : Option (List Char × Rest) :=
  digits isDigit (cs.length + 1) cs

def valueIn (base : Nat) (ds : List Char) : Nat :=
  ds.foldl (fun n d => base * n + (hexDigit? d).getD 0) 0

/-- A whole number of 64 bits. -/
def fits (n : Int) : Bool := -0x8000000000000000 ≤ n && n < 0x8000000000000000

def isBinary (c : Char) : Bool := c = '0' || c = '1'
def isOctal (c : Char) : Bool := '0' ≤ c && c ≤ '7'
def isHex (c : Char) : Bool := (hexDigit? c).isSome

def based (base : Nat) (isDigit : Char → Bool) (cs : Rest) : Option (Toml × Rest) := do
  let (ds, cs) ← someDigits isDigit cs
  let n := valueIn base ds
  if fits n then return (.integer n, cs) else none

/-- The digits before a point: a zero alone, or digits that do not begin with one. -/
def wholeDigits : Rest → Option (List Char × Rest)
  | '0' :: cs => some (['0'], cs)
  | cs => someDigits Char.isDigit cs

/-- The digits after a point; none without one. -/
def fraction : Rest → Option (List Char × Rest)
  | '.' :: cs => someDigits Char.isDigit cs
  | cs => some ([], cs)

/-- The power of ten after an `e`, if there is one. -/
def power (cs : Rest) : Option (Option Int × Rest) :=
  match cs with
  | c :: cs' =>
    if c = 'e' || c = 'E' then
      match cs' with
      | '-' :: cs' =>
        (someDigits Char.isDigit cs').map fun r => (some (-(valueIn 10 r.1 : Int)), r.2)
      | '+' :: cs' => (someDigits Char.isDigit cs').map fun r => (some (valueIn 10 r.1 : Int), r.2)
      | cs' => (someDigits Char.isDigit cs').map fun r => (some (valueIn 10 r.1 : Int), r.2)
    else some (none, cs)
  | [] => some (none, cs)

/-- A number in base ten, after its sign. A float above the finite ones is refused, one below them
is not. -/
def decimal (negative : Bool) (cs : Rest) : Option (Toml × Rest) :=
  match cs with
  | 'i' :: 'n' :: 'f' :: cs => some (.float, cs)
  | 'n' :: 'a' :: 'n' :: cs => some (.float, cs)
  | cs => do
    let (whole, cs) ← wholeDigits cs
    let (decimals, cs) ← fraction cs
    let (e, cs) ← power cs
    if decimals.isEmpty && e.isNone then
      let n : Int := valueIn 10 whole
      let n := if negative then -n else n
      if fits n then return (.integer n, cs) else none
    else
      let n := valueIn 10 (whole ++ decimals)
      if negative || (Decimal.nearestDecimal? n (e.getD 0 - decimals.length)).isSome then
        return (.float, cs)
      else none

def number : Rest → Option (Toml × Rest)
  | '0' :: 'x' :: cs => based 16 isHex cs
  | '0' :: 'o' :: cs => based 8 isOctal cs
  | '0' :: 'b' :: cs => based 2 isBinary cs
  | '+' :: cs => decimal false cs
  | '-' :: cs => decimal true cs
  | cs => decimal false cs

/-- A number of exactly `n` digits. -/
def exactly (n : Nat) (cs : Rest) : Option (Nat × Rest) :=
  let ds := cs.take n
  if ds.length = n && ds.all Char.isDigit then some (valueIn 10 ds, cs.drop n) else none

def daysIn (year month : Nat) : Nat :=
  if month = 2 then if year % 4 = 0 && (year % 100 ≠ 0 || year % 400 = 0) then 29 else 28
  else if month = 4 || month = 6 || month = 9 || month = 11 then 30
  else 31

def date (cs : Rest) : Option Rest := do
  let (year, cs) ← exactly 4 cs
  let (month, cs) ← exactly 2 (← expect '-' cs)
  let (day, cs) ← exactly 2 (← expect '-' cs)
  if 1 ≤ month && month ≤ 12 && 1 ≤ day && day ≤ daysIn year month then return cs else none

def hoursAndMinutes (cs : Rest) : Option Rest := do
  let (hour, cs) ← exactly 2 cs
  let (minute, cs) ← exactly 2 (← expect ':' cs)
  if hour < 24 && minute < 60 then return cs else none

def timeOfDay (cs : Rest) : Option Rest := do
  let (second, cs) ← exactly 2 (← expect ':' (← hoursAndMinutes cs))
  if 60 < second then none
  match cs with
  | '.' :: cs =>
    let part := cs.takeWhile Char.isDigit
    if part.isEmpty then none else return cs.drop part.length
  | cs => return cs

/-- The offset of a time from universal time, if one is given. -/
def offset (cs : Rest) : Option Rest :=
  match cs with
  | 'Z' :: cs => some cs
  | 'z' :: cs => some cs
  | '+' :: cs => hoursAndMinutes cs
  | '-' :: cs => hoursAndMinutes cs
  | cs => some cs

/-- A date, a time of day, or both with or without an offset. -/
def moment (cs : Rest) : Option (Toml × Rest) := do
  if (exactly 2 cs).any fun r => r.2.head? = some ':' then
    return (.time, ← timeOfDay cs)
  let after ← date cs
  match after with
  | c :: cs =>
    if c = 'T' || c = 't' || (c = ' ' && cs.head?.any Char.isDigit) then
      return (.time, ← offset (← timeOfDay cs))
    else return (.time, after)
  | [] => return (.time, [])

/-- Whether a date or a time of day begins here. -/
def beginsTime (cs : Rest) : Bool :=
  ((exactly 4 cs).any fun r => r.2.head? = some '-')
    || ((exactly 2 cs).any fun r => r.2.head? = some ':')

/-! ### Keys and values -/

def isBare (c : Char) : Bool := c.isAlphanum || c = '_' || c = '-'

def simpleKey (cs : Rest) : Option (String × Rest) :=
  match cs with
  | '"' :: _ => quotedLine '"' cs
  | '\x27' :: _ => quotedLine '\x27' cs
  | cs =>
    let name := cs.takeWhile isBare
    if name.isEmpty then none else some (String.ofList name, cs.drop name.length)

/-- Keys with points between them. Every round takes a character. -/
def keyPath : Nat → Rest → Option (List String × Rest)
  | 0, _ => none
  | rounds + 1, cs => do
    let (key, cs) ← simpleKey (skipSpace cs)
    match skipSpace cs with
    | '.' :: cs => do
      let (keys, cs) ← keyPath rounds cs
      return (key :: keys, cs)
    | cs => return ([key], cs)

/-- The limit on nested values and on the keys of a path. -/
def nestingLimit : Nat := 79

def path (cs : Rest) : Option (List String × Rest) := do
  let (keys, cs) ← keyPath (cs.length + 1) cs
  if nestingLimit < keys.length then none else return (keys, cs)

/-- A dotted key and its value. -/
def pair (value : Rest → Option (Toml × Rest)) (cs : Rest) :
    Option ((List String × String × Toml) × Rest) := do
  let (keys, cs) ← path cs
  let (v, cs) ← value (skipSpace (← expect '=' cs))
  return ((keys.dropLast, keys.getLast?.getD "", v), cs)

/-- The items of an array up to its closing bracket. -/
def items (value : Rest → Option (Toml × Rest)) : Nat → List Toml → Rest →
    Option (List Toml × Rest)
  | 0, _, _ => none
  | rounds + 1, done, cs =>
    match blank cs with
    | ']' :: cs => some (done.reverse, cs)
    | cs => do
      let (v, cs) ← value cs
      match blank cs with
      | ',' :: cs => items value rounds (v :: done) cs
      | ']' :: cs => return ((v :: done).reverse, cs)
      | _ => none

/-- The pairs of a table between braces up to the closing brace. -/
def pairs (value : Rest → Option (Toml × Rest)) :
    Nat → List (List String × String × Toml) → Rest →
      Option (List (List String × String × Toml) × Rest)
  | 0, _, _ => none
  | rounds + 1, done, cs => do
    let (p, cs) ← pair value cs
    match skipSpace cs with
    | ',' :: cs => pairs value rounds (p :: done) cs
    | '\x7d' :: cs => return ((p :: done).reverse, cs)
    | _ => none

/-- A value whose arrays and tables nest at most `depth` deep. -/
def valueWithin (depth : Nat) (cs : Rest) : Option (Toml × Rest) :=
  match cs with
  | '"' :: _ => do
    let (s, cs) ← quoted '"' cs
    return (.string s, cs)
  | '\x27' :: _ => do
    let (s, cs) ← quoted '\x27' cs
    return (.string s, cs)
  | 't' :: 'r' :: 'u' :: 'e' :: cs => some (.boolean true, cs)
  | 'f' :: 'a' :: 'l' :: 's' :: 'e' :: cs => some (.boolean false, cs)
  | '[' :: cs =>
    match depth with
    | 0 => none
    | depth + 1 => do
      let (vs, cs) ← items (valueWithin depth) (cs.length + 1) [] cs
      return (.array vs, cs)
  | '\x7b' :: cs =>
    match depth with
    | 0 => none
    | depth + 1 =>
      match skipSpace cs with
      | '\x7d' :: cs => some (.table .inline [], cs)
      | cs => do
        let (ps, cs) ← pairs (valueWithin depth) (cs.length + 1) [] cs
        return (← ofLine ps, cs)
  | cs => if beginsTime cs then moment cs else number cs

/-! ### Documents -/

/-- The tables read so far, and the path of the header that the next pairs belong to. -/
structure Sheet where
  entries : Entries := []
  header : List String := []

/-- One line of a document, up to its comment. -/
def line (s : Sheet) (cs : Rest) : Option (Sheet × Rest) :=
  match cs with
  | [] => some (s, [])
  | '#' :: _ => some (s, cs)
  | '\n' :: _ => some (s, cs)
  | '\r' :: _ => some (s, cs)
  | '[' :: '[' :: cs => do
    let (keys, cs) ← path cs
    let cs ← expect ']' (← expect ']' cs)
    let entries ← alongHeader (beginElement (keys.getLast?.getD "")) keys.dropLast s.entries
    return (⟨entries, keys⟩, cs)
  | '[' :: cs => do
    let (keys, cs) ← path cs
    let cs ← expect ']' cs
    let entries ← alongHeader (beginTable (keys.getLast?.getD "")) keys.dropLast s.entries
    return (⟨entries, keys⟩, cs)
  | cs => do
    let ((keys, key, v), cs) ← pair (valueWithin nestingLimit) cs
    let entries ← alongHeader (assignDotted true key v keys) s.header s.entries
    return (⟨entries, s.header⟩, cs)

/-- The lines of a document. Every round takes a line break. -/
def lines : Nat → Sheet → Rest → Option Entries
  | 0, _, _ => none
  | rounds + 1, s, cs => do
    let (s, cs) ← line s (skipSpace cs)
    match comment (skipSpace cs) with
    | [] => return s.entries
    | cs => lines rounds s (← newline? cs)

/-- The top table of a document. -/
def read (text : String) : Option Entries :=
  let cs := text.toList
  let cs := if cs.head? = some '\uFEFF' then cs.drop 1 else cs
  lines (cs.length + 1) {} cs

end BlockVocabulary.Toml
