import BlockVocabulary.Decimal.Shortest

/-!
How a binary64 number is written: positionally while its first digit stands near the point, and
otherwise with one digit before the point and an exponent. Either way the text shows that the
number is not a whole number of the data format: it has a point or an exponent.
-/

namespace BlockVocabulary.Decimal

/-- The choices a format makes about its decimals. -/
structure Style where
  /-- The least power of ten of the first digit that is written positionally. -/
  least : Int
  /-- The least power of ten above those written positionally. -/
  bound : Int
  /-- What a whole number ends in when written positionally. -/
  wholeEnd : List Char
  /-- What stands before the digits of a positive exponent. -/
  plus : List Char

def Style.positional (s : Style) (digits : List Char) (e : Int) : List Char :=
  if e < 0 then '0' :: '.' :: List.replicate (-e - 1).toNat '0' ++ digits
  else
    let n := e.toNat + 1
    if digits.length ≤ n then digits ++ List.replicate (n - digits.length) '0' ++ s.wholeEnd
    else digits.take n ++ '.' :: digits.drop n

def Style.scientific (s : Style) (digits : List Char) (e : Int) : List Char :=
  let point := if digits.length ≤ 1 then [] else '.' :: digits.drop 1
  let sign := if e < 0 then ['-'] else s.plus
  digits.take 1 ++ point ++ 'e' :: sign ++ Nat.toDigits 10 e.natAbs

/-- The text of a magnitude. -/
def Style.magnitude (s : Style) (b : Binary) : List Char :=
  if b.significand = 0 then '0' :: s.wholeEnd
  else
    let short := shortest b
    let digits := Nat.toDigits 10 short.digits
    let e := short.exponent + digits.length - 1
    if s.least ≤ e && e < s.bound then s.positional digits e else s.scientific digits e

/-- The text of a finite number. -/
def Style.text (s : Style) (bits : UInt64) : String :=
  String.ofList ((if isNegative bits then ['-'] else []) ++ s.magnitude (unpack bits))

end BlockVocabulary.Decimal
