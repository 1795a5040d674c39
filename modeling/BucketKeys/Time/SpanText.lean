import BucketKeys.Number.Power
import BucketKeys.Text.Decimal
import BucketKeys.Time.Instant

/-!
Spans for reading by people: the largest unit with a non-zero whole part, and an exact decimal
fraction without trailing zeros.
-/

namespace BucketKeys.Time.Span

open BucketKeys.Number BucketKeys.Text

def fractionChars (width remainder : Nat) : List Char :=
  let digits := ((fixedDigits width remainder).reverse.dropWhile (· = '0')).reverse
  if digits.isEmpty then [] else '.' :: digits

def inUnit (count width : Nat) (unit : String) : String :=
  String.ofList (decimalChars (count / tenTo width) ++ fractionChars width (count % tenTo width)) ++
    unit

def text (span : Span) : String :=
  if 1000000000 ≤ span.nanos then inUnit span.nanos 9 "s"
  else if 1000000 ≤ span.nanos then inUnit span.nanos 6 "ms"
  else if 1000 ≤ span.nanos then inUnit span.nanos 3 "µs"
  else inUnit span.nanos 0 "ns"

end BucketKeys.Time.Span
