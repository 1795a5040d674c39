import BucketKeys.Proofs.Time.Spelling

/-!
The numerals that are read as numbers: ASCII digits, after a plus sign or without one.
-/

namespace BucketKeys.Text

open Time.Rfc3339 (digitsValue digitsValue_append)

/-- The text is a numeral for the value. Zeros in front do not count. -/
def Numeral (text : List Char) (value : Nat) : Prop :=
  ∃ digits, (text = digits ∨ text = '+' :: digits) ∧ digits ≠ [] ∧
    (∀ c ∈ digits, c.isDigit = true) ∧ digitsValue digits = value

theorem isDigit_iff {c : Char} : c.isDigit = true ↔ 48 ≤ c.toNat ∧ c.toNat ≤ 57 := by
  simp only [Char.isDigit, Bool.and_eq_true, decide_eq_true_eq, ge_iff_le]
  exact Iff.rfl

theorem digitValue?_eq (c : Char) :
    digitValue? c = if c.isDigit then some (c.toNat - 48) else none := by
  simp only [digitValue?, isDigit_iff]

theorem digitsValue_cons (first : Char) (rest : List Char) :
    digitsValue (first :: rest) = (first.toNat - 48) * 10 ^ rest.length + digitsValue rest := by
  have hsplit := digitsValue_append [first] rest
  simpa [digitsValue] using hsplit

variable {bound soFar value : Nat} {text : List Char}

theorem readDigits_eq_ok_iff (hsmall : soFar < bound) :
    readDigits bound soFar text = .ok value ↔ (∀ c ∈ text, c.isDigit = true) ∧
      soFar * 10 ^ text.length + digitsValue text = value ∧ value < bound := by
  induction text generalizing soFar with
  | nil =>
      simp only [readDigits, Except.ok.injEq, List.not_mem_nil, false_implies, implies_true,
        List.length_nil, Nat.pow_zero, Nat.mul_one, true_and, digitsValue, List.foldl_nil,
        Nat.add_zero]
      exact ⟨fun hsame => ⟨hsame, hsame ▸ hsmall⟩, And.left⟩
  | cons first rest ih =>
      rw [List.forall_mem_cons, readDigits, digitValue?_eq]
      cases digit : first.isDigit with
      | false => simp
      | true =>
          have htotal : soFar * 10 ^ (first :: rest).length + digitsValue (first :: rest) =
              (soFar * 10 + (first.toNat - 48)) * 10 ^ rest.length + digitsValue rest := by
            rw [digitsValue_cons, List.length_cons, Nat.pow_succ']
            ring
          simp only [if_true, true_and, htotal]
          split
          · rename_i hfits
            exact ih hfits
          · rename_i large
            -- what is read later makes no number smaller
            have hgrows := Nat.le_mul_of_pos_right (soFar * 10 + (first.toNat - 48))
              (Nat.pow_pos (n := rest.length) (show 0 < 10 by decide))
            simp only [reduceCtorEq, false_iff]
            rintro ⟨-, rfl, hfits⟩
            omega

theorem numeral_of_ne_plus {first : Char} {rest : List Char} (hunsigned : first ≠ '+') :
    Numeral (first :: rest) value ↔
      (∀ c ∈ first :: rest, c.isDigit = true) ∧ digitsValue (first :: rest) = value := by
  constructor
  · rintro ⟨digits, rfl | hsigned, -, hall, hsame⟩
    · exact ⟨hall, hsame⟩
    · exact absurd (List.cons.inj hsigned).1 hunsigned
  · rintro ⟨hall, hsame⟩
    exact ⟨_, .inl rfl, List.cons_ne_nil _ _, hall, hsame⟩

theorem numeral_plus {digits : List Char} :
    Numeral ('+' :: digits) value ↔
      digits ≠ [] ∧ (∀ c ∈ digits, c.isDigit = true) ∧ digitsValue digits = value := by
  constructor
  · rintro ⟨other, rfl | hsame, hnonempty, hall, value⟩
    · exact absurd (hall '+' List.mem_cons_self) (by decide)
    · cases hsame
      exact ⟨hnonempty, hall, value⟩
  · rintro ⟨hnonempty, hall, hsame⟩
    exact ⟨digits, .inr rfl, hnonempty, hall, hsame⟩

theorem readNat_eq_ok_iff (hpositive : 0 < bound) :
    readNat bound text = .ok value ↔ Numeral text value ∧ value < bound := by
  have digits (text : List Char) : readDigits bound 0 text = .ok value ↔
      (∀ c ∈ text, c.isDigit = true) ∧ digitsValue text = value ∧ value < bound := by
    simpa only [Nat.zero_mul, Nat.zero_add] using readDigits_eq_ok_iff hpositive
  unfold readNat
  split
  · simp [Numeral]
  · simp [numeral_plus]
  · rename_i rest nonempty
    have hsome : rest ≠ [] := fun hempty => nonempty (by rw [hempty])
    rw [digits, numeral_plus, and_assoc, and_assoc]
    simp [hsome]
  · rename_i hempty hsign hsigned
    cases text with
    | nil => exact absurd rfl hempty
    | cons first rest =>
        have hunsigned : first ≠ '+' := fun hplus => hsigned rest (by rw [hplus])
        rw [digits, numeral_of_ne_plus hunsigned, and_assoc]

theorem readNat?_eq_some_iff {text : String} (hpositive : 0 < bound) :
    readNat? bound text = some value ↔ Numeral text.toList value ∧ value < bound := by
  rw [← readNat_eq_ok_iff hpositive, readNat?]
  cases readNat bound text.toList <;> simp [Except.toOption]

end BucketKeys.Text
