import BucketKeys.Number.Power

/-!
Decimal numbers as doubles in few steps: a significand of sixty-four bits, then one product with
a power of ten or one quotient by it. The result may be a neighbour of the nearest double.
-/

namespace BucketKeys.Number

/-- The digits that a significand of sixty-four bits still takes up, and how many it does not. -/
def takeUp (significand : Nat) : List Char → Nat × Nat
  | [] => (significand, 0)
  | c :: rest =>
    let next := significand * 10 + (c.toNat - 48)
    if next < UInt64.size then takeUp next rest else (significand, rest.length + 1)

def largestTen : Nat := 308

def tenPower (exponent : Nat) : Float :=
  Float.ofScientific 1 false exponent

/-- `x * 10 ^ exponent`, if that is no infinity. -/
def scaled? (x : Float) (exponent : Int) : Option Float :=
  if exponent.natAbs ≤ largestTen then
    let power := tenPower exponent.natAbs
    if exponent < 0 then some (x / power)
    else if (x * power).isInf then none
    else some (x * power)
  else if x == 0 then some x
  else if 0 ≤ exponent then none
  else scaled? (x / tenPower largestTen) (exponent + largestTen)
termination_by exponent.natAbs
decreasing_by simp only [largestTen] at *; omega

end BucketKeys.Number
