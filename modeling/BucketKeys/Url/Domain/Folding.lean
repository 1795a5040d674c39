import BucketKeys.Text.Printable
import BucketKeys.Url.Domain.Forms
import BucketKeys.Url.Domain.Ideographs
import BucketKeys.Url.Domain.Letters
import BucketKeys.Url.Domain.Shifts
import BucketKeys.Url.Domain.Styles
import BucketKeys.Url.Domain.Symbols

/-!
What characters stand for in names of domains. Letters of any case, width and style stand for the
plain ones, some characters leave no trace, and some have no place in a name.
-/

namespace BucketKeys.Url.Domain

open BucketKeys.Text (RangeMap CharSet)

inductive Folding where
  | shifted (distance : Int)
  | spelled (text : List Char)
  deriving Repr

def spelling (text : List Char) : List Char :=
  (Text.pieces (· == '+') text).filterMap fun code => (RangeMap.code? code).map Char.ofNat

def spellingRows (code : Nat) : List (List Char) → List (Nat × Nat × Folding)
  | [] => []
  | text :: rest => (code, code, .spelled (spelling text)) :: spellingRows (code + 1) rest

def spellings : List (Nat × String) :=
  letterSpellings ++ symbolSpellings ++ formSpellings ++ ideographSpellings ++ styleSpellings

def foldings : RangeMap Folding :=
  .ofRows <|
    (spellings.flatMap fun row => spellingRows row.1 (Text.words row.2)) ++
    (shiftTexts.flatMap fun row =>
      (RangeMap.readRanges row.2).map fun range => (range.1, range.2, .shifted row.1))

def ignored : CharSet :=
  .ofText
    "00AD 034F 115F-1160 17B4-17B5 180B-180F 200B 2060-2064 206A-206F 3164 FE00-FE0F FEFF FFA0
     1BCA0-1BCA3 1D173-1D17A E0100-E01EF"

/-- Characters that could be printed, and have no place in a name all the same. -/
def refused : CharSet :=
  .ofText "2024-2026 2488-249B 2FF0-2FFF 31EF 33C2 33C7 33D8 FE12 FE19 FE30 FE52 FFFC-FFFD 1F100"

/-- These let letters join or keep them apart, and show nothing of their own. -/
def isJoiner (c : Char) : Bool :=
  c == '\u200c' || c == '\u200d'

def isUsable (c : Char) : Bool :=
  c.toNat < 0x80 || isJoiner c || Text.isPrintable c && !refused.contains c

def fold? (c : Char) : Option (List Char) :=
  match foldings.find? c with
  | some (.shifted distance) => some [Char.ofNat (c.toNat + distance).toNat]
  | some (.spelled text) => some text
  | none =>
    if ignored.contains c then some []
    else if isUsable c then some [c]
    else none

end BucketKeys.Url.Domain
