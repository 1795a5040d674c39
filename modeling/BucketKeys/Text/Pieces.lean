/-!
The pieces of a text between marks. Marks are in no piece; a text without marks is one piece.
-/

namespace BucketKeys.Text

def pieces (isMark : Char → Bool) : List Char → List (List Char)
  | [] => [[]]
  | c :: rest =>
    match pieces isMark rest with
    | piece :: more => if isMark c then [] :: piece :: more else (c :: piece) :: more
    | [] => [[c]]

theorem pieces_ne_nil (isMark : Char → Bool) (text : List Char) : pieces isMark text ≠ [] := by
  cases text with
  | nil => simp [pieces]
  | cons c rest =>
    unfold pieces
    split
    · split <;> simp
    · simp

def words (text : String) : List (List Char) :=
  (pieces (fun c => c == ' ' || c == '\n') text.toList).filter (!·.isEmpty)

theorem isMark_of_mem_pieces {isMark : Char → Bool} {text piece : List Char} {c : Char}
    (hp : piece ∈ pieces isMark text) (hc : c ∈ piece) : isMark c = false := by
  induction text generalizing piece with
  | nil =>
    simp only [pieces, List.mem_singleton] at hp
    simp [hp] at hc
  | cons d rest ih =>
    unfold pieces at hp
    split at hp
    · rename_i first more heq
      have hmore {q : List Char} (hq : q ∈ first :: more) (hcq : c ∈ q) : isMark c = false :=
        ih (heq ▸ hq) hcq
      by_cases hd : isMark d = true
      · rw [if_pos hd] at hp
        rcases List.mem_cons.mp hp with rfl | hp
        · simp at hc
        · exact hmore hp hc
      · rw [if_neg hd] at hp
        rcases List.mem_cons.mp hp with rfl | hp
        · rcases List.mem_cons.mp hc with rfl | hc
          · simpa using hd
          · exact hmore List.mem_cons_self hc
        · exact hmore (List.mem_cons_of_mem first hp) hc
    · exact absurd ‹_› (pieces_ne_nil isMark rest)

end BucketKeys.Text
