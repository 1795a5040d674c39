import BucketKeys.Number.Power

/-!
Doubles as exact numbers: a finite double is a natural number times a power of two, up to sign.
-/

namespace BucketKeys.Number

/-- The magnitude `significand * 2 ^ exponent` of a finite double. -/
structure Binary where
  significand : Nat
  exponent : Int
  /-- The gap to the double below is half the gap to the double above. -/
  narrowBelow : Bool
  deriving DecidableEq, Repr

namespace Binary

/-- Infinities and undefined values have no magnitude. -/
def ofBits? (bits : UInt64) : Option Binary :=
  let field := (bits >>> 52).toNat % 2048
  let fraction := bits.toNat % twoTo 52
  if field = 2047 then none
  else if field = 0 then some ⟨fraction, -1074, false⟩
  else some ⟨twoTo 52 + fraction, field - 1075, fraction == 0 && field != 1⟩

end Binary

def isNegative (bits : UInt64) : Bool :=
  bits >>> 63 == 1

/-- The natural number nearest to `numerator / denominator`; a half goes to the even neighbour. -/
def roundHalfEven (numerator denominator : Nat) : Nat :=
  let quotient := numerator / denominator
  let twice := 2 * (numerator % denominator)
  if twice < denominator then quotient
  else if denominator < twice then quotient + 1
  else quotient + quotient % 2

/-- `significand * 2 ^ exponent * factor`, rounded to a natural number. -/
def Binary.scaled (x : Binary) (factor : Nat) : Nat :=
  if 0 ≤ x.exponent then x.significand * twoTo x.exponent.toNat * factor
  else roundHalfEven (x.significand * factor) (twoTo (-x.exponent).toNat)

end BucketKeys.Number
