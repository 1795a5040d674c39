/-!
Reading labels of domain names that hold foreign letters in their ASCII form: basic characters, and
behind the last hyphen the places and codes of the others.
-/

namespace BucketKeys.Url.Punycode

def digitValue? (c : Char) : Option Nat :=
  let code := c.toNat
  if 0x61 ≤ code ∧ code ≤ 0x7A then some (code - 0x61)
  else if 0x41 ≤ code ∧ code ≤ 0x5A then some (code - 0x41)
  else if 0x30 ≤ code ∧ code ≤ 0x39 then some (code - 0x30 + 26)
  else none

/-- How much a digit at a place may stand for before another digit has to follow. -/
def threshold (place bias : Nat) : Nat :=
  if place ≤ bias + 1 then 1 else if bias + 26 ≤ place then 26 else place - bias

def shrink (steps : Nat) (delta : Nat) : Nat :=
  if 455 < delta then shrink (steps + 36) (delta / 35)
  else steps + 36 * delta / (delta + 38)
termination_by delta
decreasing_by omega

/-- The bias after a character was inserted as number `count`. -/
def adapt (delta count : Nat) (first : Bool) : Nat :=
  let delta := if first then delta / 700 else delta / 2
  shrink 0 (delta + delta / count)

def number? (bias : Nat) : (place weight soFar : Nat) → List Char → Option (Nat × List Char)
  | _, _, _, [] => none
  | place, weight, soFar, c :: rest => do
    let digit ← digitValue? c
    let soFar := soFar + digit * weight
    let limit := threshold place bias
    if digit < limit then return (soFar, rest)
    else number? bias (place + 36) (weight * (36 - limit)) soFar rest

def isCharacter (code : Nat) : Bool :=
  code < 0xD800 || 0xE000 ≤ code && code < 0x110000

/-- Inserts the characters that the rest of a label tells of. -/
def insertAll? : (fuel : Nat) → (code place bias : Nat) → List Char → List Char →
    Option (List Char)
  | _, _, _, _, soFar, [] => some soFar
  | 0, _, _, _, _, _ => none
  | fuel + 1, code, place, bias, soFar, rest => do
    let (delta, rest) ← number? bias 36 1 0 rest
    let count := soFar.length + 1
    let position := place + delta
    let code := code + position / count
    if !isCharacter code then none
    else
      let index := position % count
      let soFar := soFar.take index ++ Char.ofNat code :: soFar.drop index
      insertAll? fuel code (index + 1) (adapt delta count (place == 0)) soFar rest

/-- The characters of a label without its mark. Basic characters end at the last hyphen; a hyphen
with none in front of it ends nothing. -/
def decode? (label : List Char) : Option (List Char) :=
  let tail := (label.reverse.takeWhile (· != '-')).reverse
  let basic := label.take (label.length - tail.length - 1)
  insertAll? label.length 128 0 72 basic (if basic.isEmpty then label else tail)

end BucketKeys.Url.Punycode
