/-!
The proleptic Gregorian calendar. Days are counted from the first of January of the year zero;
a year is found by an estimate from the mean length of years that is off by at most one.
-/

namespace BucketKeys.Time

structure Date where
  year : Int
  month : Nat
  day : Nat
  deriving DecidableEq, Repr

namespace Calendar

def isLeap (year : Int) : Bool :=
  year % 4 == 0 && (year % 100 != 0 || year % 400 == 0)

def monthLengths (leap : Bool) : List Nat :=
  [31, if leap then 29 else 28, 31, 30, 31, 30, 31, 31, 30, 31, 30, 31]

def monthLength (year : Int) (month : Nat) : Nat :=
  if month = 0 then 0 else (monthLengths (isLeap year)).getD (month - 1) 0

def daysBeforeYear (year : Int) : Int :=
  365 * year + (year + 3) / 4 - (year + 99) / 100 + (year + 399) / 400

def daysBeforeMonth (leap : Bool) (month : Nat) : Nat :=
  ((monthLengths leap).take (month - 1)).foldl (· + ·) 0

def epochDay : Int := 719528

def yearOfDay (day : Int) : Int :=
  let estimate := day * 400 / 146097
  if day < daysBeforeYear estimate then estimate - 1
  else if daysBeforeYear (estimate + 1) ≤ day then estimate + 1
  else estimate

/-- Splits a day of the year, counted from zero, along the lengths of the months from `month` on. -/
def monthOfDay (month : Nat) : List Nat → Nat → Nat × Nat
  | [], day => (month, day + 1)
  | length :: rest, day =>
    if day < length then (month, day + 1) else monthOfDay (month + 1) rest (day - length)

end Calendar

namespace Date

open Calendar

def Valid (date : Date) : Prop :=
  1 ≤ date.month ∧ date.month ≤ 12 ∧ 1 ≤ date.day ∧ date.day ≤ monthLength date.year date.month

instance (date : Date) : Decidable date.Valid :=
  inferInstanceAs (Decidable (_ ∧ _ ∧ _ ∧ _))

def toDay (date : Date) : Int :=
  daysBeforeYear date.year + daysBeforeMonth (isLeap date.year) date.month + date.day - 1

def ofDay (day : Int) : Date :=
  let year := yearOfDay day
  let inYear := monthOfDay 1 (monthLengths (isLeap year)) (day - daysBeforeYear year).toNat
  ⟨year, inYear.1, inYear.2⟩

end Date

end BucketKeys.Time
