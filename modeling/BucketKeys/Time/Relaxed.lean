import BucketKeys.Text.Blank
import BucketKeys.Time.Rfc3339

/-!
Instants in documents. A reader of documents is less strict than one of stamps: white space may
stand in front of each number, sign and colon, numbers may be short, years may be signed and of any
length, and the offset may be `UTC` or lack its colon.
-/

namespace BucketKeys.Time.Relaxed

open BucketKeys.Text

/-- Reads a part from the front of a text. -/
abbrev Reader : Type → Type := StateT (List Char) Option

def blanks : Reader Unit :=
  modify (·.dropWhile isBlank)

def literal (expected : Char) : Reader Unit
  | [] => none
  | c :: rest => if c = expected then some ((), rest) else none

def number (most : Nat) : Reader Nat := fun text =>
  let digits := (text.takeWhile Char.isDigit).take most
  if digits.isEmpty then none else some (Rfc3339.digitsValue digits, text.drop digits.length)

def field : Reader Nat := do
  blanks
  number 2

/-- Only behind a sign may there be more than four digits. -/
def signedNumber : Reader Int
  | '-' :: rest => ((fun digits : Nat => -(digits : Int)) <$> number rest.length) rest
  | '+' :: rest => (Nat.cast <$> number rest.length) rest
  | text => (Nat.cast <$> number 4) text

def year : Reader Int := do
  blanks
  signedNumber

def date : Reader Date := do
  let year ← year
  blanks
  literal '-'
  let month ← field
  blanks
  literal '-'
  return ⟨year, month, ← field⟩

def separator : Reader Unit
  | 'T' :: rest => some ((), rest)
  | 't' :: rest => some ((), rest)
  | ' ' :: rest => some ((), rest)
  | _ => none

def fraction : Reader Nat :=
  Rfc3339.splitFraction?

def shift : Reader Int
  | sign :: h₁ :: h₂ :: rest =>
    match rest.dropWhile fun c => c == ':' || isBlank c with
    | m₁ :: m₂ :: rest => do
      let hours ← Rfc3339.twoDigits? h₁ h₂
      let minutes ← Rfc3339.twoDigits? m₁ m₂
      guard (hours < 24 ∧ minutes < 60)
      let seconds : Int := (hours * 60 + minutes) * 60
      if sign = '+' then return (seconds, rest)
      else if sign = '-' ∨ sign = '\u2212' then return (-seconds, rest)
      else none
    | _ => none
  | _ => none

def zone : Reader Int
  | 'Z' :: rest => some (0, rest)
  | 'z' :: rest => some (0, rest)
  | text =>
    if (text.take 3).map Char.toUpper = ['U', 'T', 'C'] then some (0, text.drop 3) else shift text

def offset : Reader Int := do
  blanks
  zone

def clock : Reader (Nat × Nat × Nat) := do
  let hour ← field
  blanks
  literal ':'
  let minute ← field
  blanks
  literal ':'
  return (hour, minute, ← field)

structure Parts where
  date : Date
  clock : Nat × Nat × Nat
  nanos : Nat
  offset : Int
  deriving DecidableEq, Repr

def parts : Reader Parts := do
  let date ← date
  separator
  let clock ← clock
  let nanos ← fraction
  return ⟨date, clock, nanos, ← offset⟩

def isYear (year : Int) : Bool :=
  -262143 ≤ year && year ≤ 262142

def yearOf (instant : Instant) : Int :=
  (Date.ofDay (instant.seconds / 86400 + Calendar.epochDay)).year

def Parts.instant? (parts : Parts) : Option Instant := do
  let (hour, minute, second) := parts.clock
  let instant ← Rfc3339.instantOf? parts.date hour minute second parts.nanos parts.offset
  if isYear parts.date.year && isYear (yearOf instant) then some instant else none

/-- White space may stand behind an instant too. -/
def read? (text : String) : Option Instant := do
  let (parts, rest) ← parts text.toList
  if rest.all isBlank then parts.instant? else none

end BucketKeys.Time.Relaxed
