import BucketKeys.Text.CombiningClass
import BucketKeys.Text.Composed
import BucketKeys.Text.Joining
import BucketKeys.Text.Mark
import BucketKeys.Url.Domain.Folding
import BucketKeys.Url.Punycode

/-!
Labels of names. A label with foreign letters has an ASCII form behind a mark of its own; it is
read only if its letters are in the form that names are brought into. No label begins with a
combining mark, and joiners stand only where they show.
-/

namespace BucketKeys.Url.Domain

open BucketKeys.Text (Joining)

abbrev Label := List Char

namespace Label

def isAscii (c : Char) : Bool :=
  c.toNat < 0x80

def asciiMark : List Char := ['x', 'n', '-', '-']

/-- The most characters behind the mark of an ASCII form. -/
def asciiFormLimit : Nat := 2000

/-- Nothing in the label stands for anything else. -/
def isPlain (label : Label) : Bool :=
  (label.all fun c => fold? c == some [c]) && Text.composed label == label

/-- The label that an ASCII form stands for, and any other label as it is. -/
def read? (label : Label) : Option Label := do
  if !asciiMark.isPrefixOf label then return label
  else
    let form := label.drop asciiMark.length
    guard (form.all isAscii && form.length ≤ asciiFormLimit)
    let meant ← Punycode.decode? form
    guard (!meant.all isAscii && !asciiMark.isPrefixOf meant && isPlain meant)
    return meant

/-- The nearest letter that marks do not hide is there and joins in the wanted way. -/
def meets (wanted : Joining → Bool) : List Char → Bool
  | [] => false
  | c :: rest =>
    match Text.joining? c with
    | none => false
    | some .transparent => meets wanted rest
    | some joining => wanted joining

def joinsForward (joining : Joining) : Bool :=
  joining == .both || joining == .forward

def joinsBackward (joining : Joining) : Bool :=
  joining == .both || joining == .backward

/-- A joiner shows behind a virama; one that keeps letters apart shows also where they would join.
What stands in front of it is given backwards. -/
def joinerShows (before : List Char) (joiner : Char) (behind : List Char) : Bool :=
  match before with
  | [] => false
  | previous :: _ =>
    Text.combiningClass previous == Text.viramaClass ||
      joiner == '\u200c' && meets joinsForward before && meets joinsBackward behind

def joinersShow (before : List Char) : List Char → Bool
  | [] => true
  | c :: behind =>
    (!isJoiner c || joinerShows before c behind) && joinersShow (c :: before) behind

def beginsWithMark (label : Label) : Bool :=
  label.head?.any Text.isMark

def foreignLimit : Nat := 1000

def isSound (label : Label) : Bool :=
  !beginsWithMark label && joinersShow [] label &&
    (label.all isAscii || label.length ≤ foreignLimit)

end Label

end BucketKeys.Url.Domain
