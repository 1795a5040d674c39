import BucketKeys.Text.Direction
import BucketKeys.Url.Domain.Label

/-!
Names with letters that run from right to left. In such a name every label has one direction, so
that its characters stay within it when the name is shown.
-/

namespace BucketKeys.Url.Domain

open BucketKeys.Text (Direction direction)

def turns (c : Char) : Bool :=
  direction c == .rightToLeft || direction c == .arabicNumber

namespace Label

def endsForward (d : Direction) : Bool :=
  d == .leftToRight || d == .europeanNumber

def endsBackward (d : Direction) : Bool :=
  d == .rightToLeft || d == .europeanNumber || d == .arabicNumber

def goesAlong (d : Direction) : Bool :=
  d == .neutral || d == .mark

/-- A letter gives the direction. Marks at the end aside, the label ends in a letter of that
direction or in a number, and digits of two kinds do not meet in a label from right to left. -/
def hasDirection : Label → Bool
  | [] => true
  | first :: rest =>
    match (rest.map direction).reverse.dropWhile (· == .mark) with
    | [] => direction first == .leftToRight || direction first == .rightToLeft
    | last :: middle =>
      match direction first with
      | .leftToRight => endsForward last && middle.all fun d => endsForward d || goesAlong d
      | .rightToLeft =>
        endsBackward last && (middle.all fun d => endsBackward d || goesAlong d) &&
          !((last :: middle).contains .europeanNumber && (last :: middle).contains .arabicNumber)
      | _ => false

end Label

def directionsFit (labels : List Label) : Bool :=
  labels.all (fun label => !label.any turns) || labels.all Label.hasDirection

end BucketKeys.Url.Domain
