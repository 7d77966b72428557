/-!
Finite numbers of the binary64 format, unpacked from their 64 bits and found again as the nearest
to a fraction. All arithmetic is on whole numbers.
-/

namespace BlockVocabulary.Decimal

/-- The magnitude `significand * 2 ^ exponent`; `atEdge` says that the gap to the next smaller
magnitude is half the gap to the next larger one. -/
structure Binary where
  significand : Nat
  exponent : Int
  atEdge : Bool

/-- The sign bit. -/
def isNegative (bits : UInt64) : Bool := bits >>> 63 == 1

/-- The exponent field has all its bits set: an infinity, or not a number at all. -/
def isFinite (bits : UInt64) : Bool := (bits >>> 52) &&& 0x7ff != 0x7ff

/-- The magnitude of a finite number. -/
def unpack (bits : UInt64) : Binary :=
  let field := ((bits >>> 52) &&& 0x7ff).toNat
  let fraction := (bits &&& 0xfffffffffffff).toNat
  if field = 0 then ⟨fraction, -1074, false⟩
  else ⟨fraction + 0x10000000000000, field - 1075, fraction = 0 && 1 < field⟩

/-- The same number with the sign bit set. -/
def negate (bits : UInt64) : UInt64 := bits ||| 0x8000000000000000

/-- The nearest to `num / den`, of two the one with the even significand; nothing when the
fraction lies beyond the largest finite number. -/
def nearest? (num den : Nat) : Option UInt64 :=
  if num = 0 then some 0
  else
    let guess : Int := max (-1074) ((num.log2 : Int) - den.log2 - 53)
    let scaled (e : Int) : Nat × Nat := (num <<< (-e).toNat, den <<< e.toNat)
    let start := scaled guess
    let e := if 0x20000000000000 ≤ start.1 / start.2 then guess + 1 else guess
    let (n, d) := scaled e
    let down := n / d
    let rest := 2 * (n % d)
    let significand := if d < rest || (rest = d && down % 2 = 1) then down + 1 else down
    let bits := ((e + 1074).toNat <<< 52) + significand
    if bits < 0x7ff0000000000000 then some bits.toUInt64 else none

/-- Ten to the power of `n`. -/
def tenTo (n : Nat) : Nat := Nat.pow 10 n

/-- The nearest to `digits * 10 ^ exponent`. Exponents far outside the range of the format are
answered without computing the power. -/
def nearestDecimal? (digits : Nat) (exponent : Int) : Option UInt64 :=
  if digits = 0 then some 0
  else
    let magnitude : Int := (Nat.toDigits 10 digits).length + exponent
    if magnitude < -400 then some 0
    else if 400 < magnitude then none
    else nearest? (digits * tenTo exponent.toNat) (tenTo (-exponent).toNat)

end BlockVocabulary.Decimal
