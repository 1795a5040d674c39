import BucketKeys.Text.CombiningClass
import BucketKeys.Text.Composition

/-!
The composed form of a text: one spelling for all texts that read the same. Everything is taken
apart, marks are put into the order of their classes, and what can be composed is.
-/

namespace BucketKeys.Text

def compositionDepth : Nat := 4

def takenApart : (depth : Nat) → Char → List Char
  | 0, c => [c]
  | depth + 1, c =>
    match split? c with
    | some (first, second) => takenApart depth first ++ [second]
    | none => [c]

/-- Puts a mark behind all that it may not pass, at the end of a text that is given backwards. -/
def settleMark (mark : Char) : List Char → List Char
  | [] => [mark]
  | c :: rest =>
    if combiningClass mark < combiningClass c then c :: settleMark mark rest else mark :: c :: rest

/-- A character that begins a cluster is passed by none. -/
def settle (text : List Char) : List Char :=
  (text.foldl (fun before c =>
    if combiningClass c = 0 then c :: before else settleMark c before) []).reverse

theorem settleMark_perm (mark : Char) (text : List Char) :
    (settleMark mark text).Perm (mark :: text) := by
  induction text with
  | nil => exact .refl _
  | cons c rest ih =>
    unfold settleMark
    split
    · exact (ih.cons c).trans (.swap mark c rest)
    · exact .refl _

/-- Composes the character that begins a cluster with what follows it. Behind it stand the marks
that it passed over, backwards, and the class of the last of them; a mark of that class or of a
higher one hides what follows. -/
def composeFrom (start : Char) (passed : List Char) (hidden : Option Nat) :
    List Char → List Char
  | [] => start :: passed.reverse
  | c :: rest =>
    let kind := combiningClass c
    let reachable := hidden.all (· < kind)
    match (if reachable then compose? start c else none) with
    | some composed => composeFrom composed passed hidden rest
    | none =>
      if kind = 0 then start :: passed.reverse ++ composeFrom c [] none rest
      else composeFrom start (c :: passed) (some kind) rest

def composeAll : List Char → List Char
  | [] => []
  | c :: rest => if combiningClass c = 0 then composeFrom c [] none rest else c :: composeAll rest

def composed (text : List Char) : List Char :=
  composeAll (settle (text.flatMap (takenApart compositionDepth)))

end BucketKeys.Text
