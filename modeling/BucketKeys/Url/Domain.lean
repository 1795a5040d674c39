import BucketKeys.Text.Utf8
import BucketKeys.Url.Domain.Bidirectional

/-!
Names of domains as they are written in URLs. Characters are replaced by what they stand for, the
text is composed, and its labels are read and checked; the name that results has one spelling.
-/

namespace BucketKeys.Url.Domain

def isForbidden (c : Char) : Bool :=
  c.toNat ≤ 0x20 || c.toNat == 0x7F ||
    ['#', '%', '/', ':', '<', '>', '?', '@', '[', '\\', ']', '^', '|'].contains c

def labels (name : List Char) : List Label :=
  Text.pieces (· == '.') name

/-- Replaces all characters by what they stand for; none if one of them has no place in a name. -/
def folded? (text : List Char) : Option (List Char) := do
  let parts ← text.mapM fold?
  let name := Text.composed parts.flatten
  if name.any isForbidden then none else return name

def ofBytes? (bytes : Bytes) : Option (List Char) := do
  let text ← Text.decode? bytes
  let name ← folded? text.toList
  let read ← (labels name).mapM Label.read?
  guard (read.all Label.isSound && directionsFit read)
  return List.intercalate ['.'] read

end BucketKeys.Url.Domain
