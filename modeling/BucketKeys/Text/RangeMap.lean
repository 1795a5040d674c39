import BucketKeys.Text.Hex
import BucketKeys.Text.Pieces

/-!
Values of characters by ranges of codes. The ranges are written as a text of hexadecimal codes:
`0041-005A 005F` are the upper-case letters of ASCII and the underscore. A search gives the value
of a range that holds the code.
-/

namespace BucketKeys.Text

structure RangeMap (α : Type) where
  /-- The first and the last code of a range, and its value. Ranges ascend and do not meet. -/
  rows : Array (Nat × Nat × α)

abbrev CharSet := RangeMap Unit

namespace RangeMap

def code? (digits : List Char) : Option Nat :=
  if digits.isEmpty then none
  else digits.foldlM (fun value c => (hexValue? c).map (value * 16 + ·)) 0

def range? (text : List Char) : Option (Nat × Nat) := do
  match pieces (· == '-') text with
  | [code] => return (← code? code, ← code? code)
  | [first, last] => return (← code? first, ← code? last)
  | _ => none

def readRanges (text : String) : List (Nat × Nat) :=
  (words text).filterMap range?

def ofRows (rows : List (Nat × Nat × α)) : RangeMap α :=
  ⟨(rows.mergeSort fun a b => a.1 ≤ b.1).toArray⟩

def ofTexts (texts : List (α × String)) : RangeMap α :=
  .ofRows <| texts.flatMap fun text =>
    (readRanges text.2).map fun range => (range.1, range.2, text.1)

/-- Halves the rows in question, those from `low` on and below `high`, until one holds the code. -/
def search (rows : Array (Nat × Nat × α)) (code low high : Nat) : Option α :=
  if low < high then
    let middle := low + (high - low) / 2
    match rows[middle]? with
    | none => none
    | some (first, last, value) =>
      if code < first then search rows code low middle
      else if last < code then search rows code (middle + 1) high
      else some value
  else none
termination_by high - low

def find? (map : RangeMap α) (c : Char) : Option α :=
  search map.rows c.toNat 0 map.rows.size

theorem exists_row_of_search {rows : Array (Nat × Nat × α)} {code low high : Nat} {value : α}
    (h : search rows code low high = some value) :
    ∃ row ∈ rows, row.1 ≤ code ∧ code ≤ row.2.1 ∧ row.2.2 = value := by
  fun_induction search rows code low high with
  | case1 => cases h
  | case2 _ _ _ _ _ _ _ _ _ ih => exact ih h
  | case3 _ _ _ _ _ _ _ _ _ _ ih => exact ih h
  | case4 low high _ middle first last found hrow hfirst hlast =>
    cases h
    exact ⟨_, Array.mem_of_getElem? hrow, Nat.le_of_not_lt hfirst, Nat.le_of_not_lt hlast, rfl⟩
  | case5 => cases h

end RangeMap

namespace CharSet

def ofText (text : String) : CharSet :=
  .ofTexts [((), text)]

def contains (set : CharSet) (c : Char) : Bool :=
  (set.find? c).isSome

end CharSet

end BucketKeys.Text
