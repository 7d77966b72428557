import BlockVocabulary.Decimal.Binary

/-!
The shortest decimal of a finite binary64 number: as few digits as read back to the same number,
and of these the nearest.

The numbers that read back are those between the two halfway points to the neighbours, ends
included when the significand is even. For one digit, two digits and so on, the two decimals next
to the number on that grid are tried; the first grid with one of them between the halfway points
wins, and of two the nearer, of two equally near the even one.
-/

namespace BlockVocabulary.Decimal

/-- The number `digits * 10 ^ exponent`. -/
structure Scaled where
  digits : Nat
  exponent : Int

/-- A positive fraction with the halfway points to its neighbours, over one denominator. -/
structure Span where
  low : Nat
  value : Nat
  high : Nat
  den : Nat
  closed : Bool

def Span.ofBinary (b : Binary) : Span :=
  let up := 1 <<< (b.exponent - 2).toNat
  { low := (4 * b.significand - if b.atEdge then 1 else 2) * up
    value := 4 * b.significand * up
    high := (4 * b.significand + 2) * up
    den := 1 <<< (2 - b.exponent).toNat
    closed := b.significand % 2 = 0 }

/-- The span divided by `10 ^ e`. -/
def Span.scale (s : Span) (e : Int) : Span :=
  let up := tenTo (-e).toNat
  { s with low := s.low * up, value := s.value * up, high := s.high * up
           den := s.den * tenTo e.toNat }

/-- Whether the whole number `n` lies between the halfway points. -/
def Span.holds (s : Span) (n : Nat) : Bool :=
  if s.closed then s.low ≤ n * s.den && n * s.den ≤ s.high
  else s.low < n * s.den && n * s.den < s.high

/-- The whole number that stands for the span, if one of the two next to the value does. -/
def Span.whole? (s : Span) : Option Nat :=
  let below := s.value / s.den
  match s.holds below, s.holds (below + 1) with
  | false, false => none
  | true, false => some below
  | false, true => some (below + 1)
  | true, true =>
    let middle := (2 * below + 1) * s.den
    if 2 * s.value < middle then some below
    else if middle < 2 * s.value then some (below + 1)
    else some (if below % 2 = 0 then below else below + 1)

/-- The place of the first digit: `10 ^ (p - 1) ≤ value < 10 ^ p`. -/
def Span.places (s : Span) : Int :=
  if s.den ≤ s.value then (Nat.toDigits 10 (s.value / s.den)).length
  else 1 - ((Nat.toDigits 10 ((s.den - 1) / s.value)).length : Int)

/-- Moves trailing zeros of the digits to the exponent, at most `fuel` of them. -/
def Scaled.trim : Nat → Scaled → Scaled
  | 0, s => s
  | fuel + 1, s =>
    if s.digits % 10 = 0 then trim fuel ⟨s.digits / 10, s.exponent + 1⟩ else s

/-- The shortest decimal of a magnitude other than zero. -/
def shortest (b : Binary) : Scaled :=
  let span := Span.ofBinary b
  let places := span.places
  let found := (List.range 17).findSome? fun (n : Nat) =>
    let e := places - (n + 1 : Nat)
    (span.scale e).whole?.map fun d => Scaled.mk d e
  (found.getD ⟨0, 0⟩).trim 17

end BlockVocabulary.Decimal
