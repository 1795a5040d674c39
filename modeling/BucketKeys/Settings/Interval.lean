import BucketKeys.Text.Blank
import BucketKeys.Text.Decimal
import BucketKeys.Text.DecimalDigit
import BucketKeys.Text.LowerCase
import BucketKeys.Time.Instant

/-!
Intervals as they are configured: a positive number of seconds, minutes, hours or days.
-/

namespace BucketKeys.Settings

open Time (Span)

inductive IntervalFault where
  | empty
  | malformed (text : String)
  | badNumber (text : String) (fault : Text.NumberFault)
  | zero (text : String)
  | tooLarge (text : String)
  deriving DecidableEq, Repr

namespace IntervalFault

def message : IntervalFault → String
  | empty => "Duration string cannot be empty"
  | malformed text =>
    "Invalid duration format '" ++ text ++
      "'. Expected format: <number><unit> (e.g., '30s', '1m', '1h')"
  | badNumber text fault => "Invalid duration number in '" ++ text ++ "': " ++ fault.message
  | zero text => "Duration number must be greater than 0, got '" ++ text ++ "'"
  | tooLarge text => "Duration '" ++ text ++ "' is too large"

end IntervalFault

namespace Interval

def unitSeconds? : Char → Option Nat
  | 's' => some 1
  | 'm' => some 60
  | 'h' => some 3600
  | 'd' => some 86400
  | _ => none

/-- Decimal digits of any script in front of a unit, in letters of either case. -/
def split? (text : List Char) : Option (List Char × Nat) :=
  let text := Text.lowerCaseChars text
  let digits := text.takeWhile Text.isDecimalDigit
  match digits, text.dropWhile Text.isDecimalDigit with
  | _ :: _, [unit] => (unitSeconds? unit).map ((digits, ·))
  | _, _ => none

/-- Reads an interval without white space around it. Only ASCII digits make a number. -/
def readTrimmed (text : List Char) : Except IntervalFault Span :=
  let shown := String.ofList text
  if text.isEmpty then .error .empty
  else
    match split? text with
    | none => .error (.malformed shown)
    | some (digits, unit) =>
      match Text.readNat UInt64.size digits with
      | .error fault => .error (.badNumber shown fault)
      | .ok 0 => .error (.zero shown)
      | .ok count =>
        if count * unit < UInt64.size then .ok (.ofSeconds (count * unit)) else .error (.tooLarge shown)

def read (text : String) : Except IntervalFault Span :=
  readTrimmed (Text.trimChars text.toList)

end Interval

end BucketKeys.Settings
