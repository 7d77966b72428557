import BlockVocabulary.Json.Cursor
import BlockVocabulary.Json.Basic

/-!
The words, numbers and strings of JSON text.

Of a number it is assumed that one without a point and an exponent stays whole if it fits into 64
bits, and that every other is the binary64 number nearest to it, refused when it lies beyond the
largest of them; of a string, that an escape of half a surrogate pair is followed by its other half.
-/

namespace BlockVocabulary.Json

open Decimal

/-- Reads the given letters. -/
def word : List Char → Cursor → Reading Cursor
  | [], c => .ok c
  | l :: ls, c =>
    match c.rest with
    | [] => c.stop .endInValue
    | x :: _ => if x = l then word ls c.advance else c.stopAfter 1 .wordExpected

/-! ### Numbers -/

def digitsValue (ds : List Char) : Nat := ds.foldl (fun n d => 10 * n + (d.toNat - '0'.toNat)) 0

/-- The largest exponent that is kept exactly. -/
def exponentBound : Nat := 2147483647

/-- How many of the digits are read when their value first passes the bound. -/
def passesBound (value count : Nat) : List Char → Option Nat
  | [] => none
  | d :: ds =>
    let value := 10 * value + (d.toNat - '0'.toNat)
    if exponentBound < value then some (count + 1) else passesBound value (count + 1) ds

/-- The digits after a point, at least one; none when there is no point. -/
def fraction (c : Cursor) : Reading (List Char × Cursor) :=
  match c.rest with
  | '.' :: _ =>
    let c := c.advance
    let digits := c.rest.takeWhile Char.isDigit
    let after := c.skip digits.length
    if digits.isEmpty then after.stop (if after.rest.isEmpty then .endInValue else .badNumber)
    else .ok (digits, after)
  | _ => .ok ([], c)

/-- The power of ten after an `e`, for a number whose digits are all zero or not. A power beyond
the bound is refused where it passes it, unless the number is zero or the power negative. -/
def power (zero : Bool) (c : Cursor) : Reading (Int × Cursor) :=
  match c.rest with
  | x :: _ =>
    if x = 'e' || x = 'E' then
      let c := c.advance
      let down := c.rest.head? = some '-'
      let c := if down || c.rest.head? = some '+' then c.advance else c
      let digits := c.rest.takeWhile Char.isDigit
      if digits.isEmpty then
        if c.rest.isEmpty then c.stop .endInValue else c.stopAfter 1 .badNumber
      else
        let n : Int := digitsValue digits
        match passesBound 0 0 digits with
        | some count =>
          if zero || down then .ok (if down then -n else n, c.skip digits.length)
          else c.stopAfter count .numberOutOfRange
        | none => .ok (if down then -n else n, c.skip digits.length)
    else .ok (0, c)
  | [] => .ok (0, c)

/-- A whole number of 64 bits, if the digits are one; there is no negative zero among them. -/
def whole? (negative : Bool) (n : Nat) : Option Int :=
  if negative then if n = 0 || 0x8000000000000000 < n then none else some (-n)
  else if n < 0x10000000000000000 then some n else none

/-- A number, after its sign. -/
def numberAfterSign (negative : Bool) (c : Cursor) : Reading (Number × Cursor) := do
  let digits := c.rest.takeWhile Char.isDigit
  match digits with
  | [] => if c.rest.isEmpty then c.stop .endInValue else c.stopAfter 1 .badNumber
  | '0' :: _ :: _ => (c.skip 1).stop .badNumber
  | _ =>
    let afterWhole := c.skip digits.length
    let (decimals, afterFraction) ← fraction afterWhole
    let n := digitsValue (digits ++ decimals)
    let (e, after) ← power (n = 0) afterFraction
    let plain := after.offset = afterWhole.offset
    match if plain then whole? negative n else none with
    | some i => return (.int i, after)
    | none =>
      match nearestDecimal? n (e - decimals.length) with
      | some bits => return (.float (if negative then negate bits else bits), after)
      | none => after.stopAfter 0 .numberOutOfRange

/-- A number, from its sign or first digit on. -/
def number? (c : Cursor) : Reading (Number × Cursor) :=
  if c.rest.head? = some '-' then numberAfterSign true c.advance else numberAfterSign false c

/-! ### Strings -/

def hexValue? (x : Char) : Option Nat :=
  if x.isDigit then some (x.toNat - '0'.toNat)
  else if 'a' ≤ x && x ≤ 'f' then some (x.toNat - 'a'.toNat + 10)
  else if 'A' ≤ x && x ≤ 'F' then some (x.toNat - 'A'.toNat + 10)
  else none

/-- Four hexadecimal digits. -/
def hex4 (c : Cursor) : Reading (Nat × Cursor) :=
  let four := c.rest.take 4
  let bytes := four.foldl (fun n x => n + x.utf8Size) 0
  if bytes < 4 then c.stopAfter bytes .endInString
  else
    match four.mapM hexValue? with
    | some ds => .ok (ds.foldl (fun n d => 16 * n + d) 0, c.skip 4)
    | none => c.stopAfter 4 .badEscape

/-- The given character, inside the second half of a surrogate pair. -/
def pairPart (x : Char) (c : Cursor) : Reading Cursor :=
  match c.rest with
  | [] => c.stop .endInString
  | y :: _ => if y = x then .ok c.advance else c.stopAfter 1 .surrogateCut

def isHighSurrogate (n : Nat) : Bool := 0xd800 ≤ n && n ≤ 0xdbff
def isLowSurrogate (n : Nat) : Bool := 0xdc00 ≤ n && n ≤ 0xdfff

/-- The character written as a code unit, or as two that make a pair, after the `u`. -/
def codeUnits (c : Cursor) : Reading (Char × Cursor) := do
  let (n, c) ← hex4 c
  if isLowSurrogate n then c.stopAfter 0 .loneSurrogate
  else if isHighSurrogate n then
    let c ← pairPart '\\' c
    let c ← pairPart 'u' c
    let (low, c) ← hex4 c
    if isLowSurrogate low then
      return (Char.ofNat (0x10000 + (n - 0xd800) * 0x400 + (low - 0xdc00)), c)
    else c.stopAfter 0 .loneSurrogate
  else return (Char.ofNat n, c)

/-- The character that a letter after a backslash stands for. -/
def escapeLetter? : Char → Option Char
  | '"' => some '"'
  | '\\' => some '\\'
  | '/' => some '/'
  | 'b' => some '\x08'
  | 'f' => some '\x0c'
  | 'n' => some '\n'
  | 'r' => some '\r'
  | 't' => some '\t'
  | _ => none

/-- A character written with a backslash, after the backslash. -/
def escape (c : Cursor) : Reading (Char × Cursor) :=
  match c.rest with
  | [] => c.stop .endInString
  | 'u' :: _ => codeUnits c.advance
  | x :: _ =>
    match escapeLetter? x with
    | some y => .ok (y, c.advance)
    | none => c.stopAfter 1 .badEscape

/-- The rest of a string up to its closing quote, `done` being what was read in reverse. Every
round takes a character, so the length of the text bounds the rounds. -/
def stringFrom : Nat → List Char → Cursor → Reading (String × Cursor)
  | 0, _, c => c.stop .endInString
  | rounds + 1, done, c =>
    match c.rest with
    | [] => c.stop .endInString
    | '"' :: _ => .ok (String.ofList done.reverse, c.advance)
    | '\\' :: _ => do
      let (x, c) ← escape c.advance
      stringFrom rounds (x :: done) c
    | x :: _ =>
      if x.toNat < 0x20 then c.stopAfter 1 .controlCharacter
      else stringFrom rounds (x :: done) c.advance

/-- A string, after its opening quote. -/
def stringAfterQuote (c : Cursor) : Reading (String × Cursor) := stringFrom c.rounds [] c

end BlockVocabulary.Json
