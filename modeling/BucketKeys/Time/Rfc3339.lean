import BucketKeys.Number.Power
import BucketKeys.Text.Decimal
import BucketKeys.Time.Calendar
import BucketKeys.Time.Instant

/-!
Instants as texts in the manner of RFC 3339. More is read than the standard has: a second 60 at any
time of day, and U+2212 as a minus sign. Fraction digits behind the ninth are dropped. Instants are
written in UTC.
-/

namespace BucketKeys.Time.Rfc3339

open BucketKeys.Text

def twoDigits? (a b : Char) : Option Nat := do
  return (← digitValue? a) * 10 + (← digitValue? b)

def digitsValue (digits : List Char) : Nat :=
  digits.foldl (fun value c => value * 10 + (c.toNat - 48)) 0

def fractionNanos (digits : List Char) : Nat :=
  let kept := digits.take 9
  digitsValue kept * Number.tenTo (9 - kept.length)

def splitFraction? : List Char → Option (Nat × List Char)
  | '.' :: rest =>
    let digits := rest.takeWhile Char.isDigit
    if digits.isEmpty then none else some (fractionNanos digits, rest.dropWhile Char.isDigit)
  | rest => some (0, rest)

def offsetSeconds? : List Char → Option Int
  | ['Z'] => some 0
  | ['z'] => some 0
  | [sign, h₁, h₂, ':', m₁, m₂] => do
    let hours ← twoDigits? h₁ h₂
    let minutes ← twoDigits? m₁ m₂
    guard (hours < 24 ∧ minutes < 60)
    let seconds : Int := (hours * 60 + minutes) * 60
    if sign = '+' then return seconds
    else if sign = '-' ∨ sign = '\u2212' then return -seconds
    else none
  | _ => none

/-- Second 60 is second 59 with a whole second in its fraction. -/
def instantOf? (date : Date) (hour minute second nanos : Nat) (offset : Int) : Option Instant := do
  guard (date.Valid ∧ hour < 24 ∧ minute < 60 ∧ second ≤ 60)
  let inDay : Int := (hour * 60 + minute) * 60 + min second 59
  let seconds := (date.toDay - Calendar.epochDay) * 86400 + inDay - offset
  return ⟨seconds, if second = 60 then nanosPerSecond + nanos else nanos⟩

def readChars : List Char → Option Instant
  | y₁ :: y₂ :: y₃ :: y₄ :: '-' :: o₁ :: o₂ :: '-' :: d₁ :: d₂ :: separator ::
      h₁ :: h₂ :: ':' :: m₁ :: m₂ :: ':' :: s₁ :: s₂ :: rest => do
    guard (separator = 'T' ∨ separator = 't' ∨ separator = ' ')
    let year := (← twoDigits? y₁ y₂) * 100 + (← twoDigits? y₃ y₄)
    let date : Date := ⟨year, ← twoDigits? o₁ o₂, ← twoDigits? d₁ d₂⟩
    let (nanos, rest) ← splitFraction? rest
    instantOf? date (← twoDigits? h₁ h₂) (← twoDigits? m₁ m₂) (← twoDigits? s₁ s₂) nanos
      (← offsetSeconds? rest)
  | _ => none

def read? (text : String) : Option Instant :=
  readChars text.toList

inductive Fraction where
  | none
  | nine
  /-- The fewest of none, three, six and nine that lose nothing. -/
  | fewest

def Fraction.chars (style : Fraction) (nanos : Nat) : List Char :=
  match style with
  | none => []
  | nine => '.' :: fixedDigits 9 nanos
  | fewest =>
    if nanos = 0 then []
    else if nanos % 1000000 = 0 then '.' :: fixedDigits 3 (nanos / 1000000)
    else if nanos % 1000 = 0 then '.' :: fixedDigits 6 (nanos / 1000)
    else '.' :: fixedDigits 9 nanos

/-- Four digits; outside of the years 0 to 9999 with a sign. -/
def yearChars (year : Int) : List Char :=
  if 0 ≤ year ∧ year ≤ 9999 then fixedDigits 4 year.toNat
  else (if year < 0 then '-' else '+') :: paddedDigits 4 year.natAbs

def writeChars (style : Fraction) (zone : List Char) (instant : Instant) : List Char :=
  let date := Date.ofDay (instant.seconds / 86400 + Calendar.epochDay)
  let inDay := (instant.seconds % 86400).toNat
  let second := inDay % 60 + instant.nanos / nanosPerSecond
  yearChars date.year ++ '-' :: fixedDigits 2 date.month ++ '-' :: fixedDigits 2 date.day ++
    'T' :: fixedDigits 2 (inDay / 3600) ++ ':' :: fixedDigits 2 (inDay / 60 % 60) ++
    ':' :: fixedDigits 2 second ++ style.chars (instant.nanos % nanosPerSecond) ++ zone

/-- Nine fraction digits and `Z`: the form of the creation annotations. -/
def stamp (instant : Instant) : String :=
  String.ofList (writeChars .nine ['Z'] instant)

def transition (instant : Instant) : String :=
  String.ofList (writeChars .fewest ['+', '0', '0', ':', '0', '0'] instant)

def metadata (instant : Instant) : String :=
  String.ofList (writeChars .none ['Z'] instant)

def shown (instant : Instant) : String :=
  String.ofList (writeChars .fewest ['Z'] instant)

end BucketKeys.Time.Rfc3339
