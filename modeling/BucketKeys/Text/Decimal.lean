/-!
Natural numbers in decimal: writing with a least width, and reading with an upper bound.
-/

namespace BucketKeys.Text

def digitChar (value : Nat) : Char :=
  Char.ofNat (48 + value)

def digitValue? (c : Char) : Option Nat :=
  if 48 ≤ c.toNat ∧ c.toNat ≤ 57 then some (c.toNat - 48) else none

theorem digitValue?_digitChar {value : Nat} (h : value < 10) :
    digitValue? (digitChar value) = some value := by
  have hall : ∀ v < 10, digitValue? (digitChar v) = some v := by decide
  exact hall value h

def decimalChars (value : Nat) : List Char :=
  if value < 10 then [digitChar value]
  else decimalChars (value / 10) ++ [digitChar (value % 10)]

def decimal (value : Nat) : String :=
  String.ofList (decimalChars value)

/-- The last `width` decimal digits, zeros in front. -/
def fixedDigits : (width : Nat) → (value : Nat) → List Char
  | 0, _ => []
  | width + 1, value => fixedDigits width (value / 10) ++ [digitChar (value % 10)]

@[simp] theorem length_fixedDigits (width value : Nat) :
    (fixedDigits width value).length = width := by
  induction width generalizing value with
  | zero => rfl
  | succ width ih => simp [fixedDigits, ih]

def paddedDigits (width value : Nat) : List Char :=
  let digits := decimalChars value
  List.replicate (width - digits.length) '0' ++ digits

def integerChars : Int → List Char
  | .ofNat value => decimalChars value
  | .negSucc value => '-' :: decimalChars (value + 1)

def integer (value : Int) : String :=
  String.ofList (integerChars value)

inductive NumberFault where
  | empty
  | invalidDigit
  | tooLarge
  deriving DecidableEq, Repr

namespace NumberFault

def message : NumberFault → String
  | empty => "cannot parse integer from empty string"
  | invalidDigit => "invalid digit found in string"
  | tooLarge => "number too large to fit in target type"

end NumberFault

/-- Reads digits from the left on top of the value read so far; the first fault wins. -/
def readDigits (bound : Nat) (soFar : Nat) : List Char → Except NumberFault Nat
  | [] => .ok soFar
  | c :: rest =>
    match digitValue? c with
    | none => .error .invalidDigit
    | some digit =>
      let value := soFar * 10 + digit
      if value < bound then readDigits bound value rest else .error .tooLarge

/-- Reads a number below `bound`: ASCII digits, after an optional plus sign. -/
def readNat (bound : Nat) : List Char → Except NumberFault Nat
  | [] => .error .empty
  | ['+'] => .error .invalidDigit
  | '+' :: rest => readDigits bound 0 rest
  | text => readDigits bound 0 text

def readNat? (bound : Nat) (text : String) : Option Nat :=
  (readNat bound text.toList).toOption

end BucketKeys.Text
