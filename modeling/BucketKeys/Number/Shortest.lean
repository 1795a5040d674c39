import BucketKeys.Number.Binary
import BucketKeys.Number.Power
import BucketKeys.Text.Decimal

/-!
The fewest decimal digits that identify a double among the doubles, and their layout without an
exponent.
-/

namespace BucketKeys.Number

/-- `digits * 10 ^ exponent`. -/
structure Decimal where
  digits : Nat
  exponent : Int
  deriving DecidableEq, Repr

namespace Decimal

/-- `a * 10 ^ e` compared with `b * 2 ^ q`, in naturals. -/
def compareBinary (a : Nat) (e : Int) (b : Nat) (q : Int) : Ordering :=
  compare (a * tenTo e.toNat * twoTo (-q).toNat) (b * twoTo q.toNat * tenTo (-e).toNat)

/-- The decimal is nearer to this double than to its neighbours; halfway counts exactly if the
significand is even. Quarters of the last place keep the bounds whole. -/
def identifies (x : Binary) (decimal : Decimal) : Bool :=
  let below := compareBinary decimal.digits decimal.exponent
    (4 * x.significand - if x.narrowBelow then 1 else 2) (x.exponent - 2)
  let above := compareBinary decimal.digits decimal.exponent
    (4 * x.significand + 2) (x.exponent - 2)
  let closed := x.significand % 2 == 0
  (below == .gt || closed && below == .eq) && (above == .lt || closed && above == .eq)

/-- The least `k` with `x < 10 ^ k`, looked for upwards from `k`. -/
def scaleFrom (x : Binary) : (steps : Nat) → (k : Int) → Int
  | 0, k => k
  | steps + 1, k =>
    if compareBinary 1 k x.significand x.exponent == .gt then k else scaleFrom x steps (k + 1)

def scale (x : Binary) : Int :=
  let magnitude : Int := (Nat.log2 x.significand : Int) + x.exponent
  scaleFrom x 8 (magnitude * 30103 / 100000 - 2)

/-- The neighbour of the double on the grid `10 ^ exponent` that identifies it, the nearer of two. -/
def onGrid? (x : Binary) (exponent : Int) : Option Decimal :=
  let floor := x.significand * twoTo x.exponent.toNat * tenTo (-exponent).toNat /
    (tenTo exponent.toNat * twoTo (-x.exponent).toNat)
  let low : Decimal := ⟨floor, exponent⟩
  let high : Decimal := ⟨floor + 1, exponent⟩
  match identifies x low, identifies x high with
  | true, true =>
    match compareBinary (2 * floor + 1) exponent (2 * x.significand) x.exponent with
    | .lt => some high
    | .gt => some low
    | .eq => some (if floor % 2 = 0 then low else high)
  | true, false => some low
  | false, true => some high
  | false, false => none

def exact (x : Binary) : Decimal :=
  if 0 ≤ x.exponent then ⟨x.significand * twoTo x.exponent.toNat, 0⟩
  else
    let places := (-x.exponent).toNat
    ⟨x.significand * tenTo places / twoTo places, x.exponent⟩

def search (x : Binary) (k : Int) : (more : Nat) → (places : Nat) → Decimal
  | 0, _ => exact x
  | more + 1, places =>
    match onGrid? x (k - places) with
    | some decimal => decimal
    | none => search x k more (places + 1)

/-- The fewest digits that identify the double. -/
def shortest (x : Binary) : Decimal :=
  if x.significand = 0 then ⟨0, 0⟩ else search x (scale x) 17 1

def positional (decimal : Decimal) : List Char :=
  if 0 ≤ decimal.exponent then
    Text.decimalChars (decimal.digits * tenTo decimal.exponent.toNat)
  else
    let places := (-decimal.exponent).toNat
    let fraction := ((Text.fixedDigits places decimal.digits).reverse.dropWhile (· = '0')).reverse
    let whole := Text.decimalChars (decimal.digits / tenTo places)
    if fraction.isEmpty then whole else whole ++ '.' :: fraction

end Decimal

def positionalText (bits : UInt64) : String :=
  let sign := if isNegative bits then "-" else ""
  match Binary.ofBits? bits with
  | some x => sign ++ String.ofList (Decimal.positional (Decimal.shortest x))
  | none => if bits.toNat % twoTo 52 = 0 then sign ++ "inf" else "NaN"

end BucketKeys.Number
