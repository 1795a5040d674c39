import BucketKeys.Text.Percent

/-!
Percent-encoding loses nothing where percent signs themselves are encoded, and of the characters to
be encoded it leaves none but the percent sign.
-/

namespace BucketKeys.Text.Percent

variable {escaped : Char → Bool}

theorem decode_cons_of_ne {c : Char} (hplain : c ≠ '%') (rest : List Char) :
    decode (c :: rest) = String.utf8EncodeChar c ++ decode rest := by
  rw [decode]
  rintro high low after rfl
  exact absurd rfl hplain

theorem decode_byteChars (byte : UInt8) (rest : List Char) :
    decode (byteChars byte ++ rest) = byte :: decode rest := by
  have hbound := byte.toNat_lt
  have hhigh := hexValue?_upperHexDigit (show byte.toNat / 16 < 16 by omega)
  have hlow := hexValue?_upperHexDigit (show byte.toNat % 16 < 16 by omega)
  simp only [byteChars, List.cons_append, List.nil_append, decode, hhigh, hlow]
  rw [Nat.div_add_mod', UInt8.ofNat_toNat]

theorem decode_flatMap_byteChars (bytes : Bytes) (rest : List Char) :
    decode (bytes.flatMap byteChars ++ rest) = bytes ++ decode rest := by
  induction bytes with
  | nil => rfl
  | cons byte bytes ih =>
      rw [List.flatMap_cons, List.append_assoc, decode_byteChars, ih, List.cons_append]

theorem decode_charChars (hpercent : escaped '%' = true) (c : Char) (rest : List Char) :
    decode (charChars escaped c ++ rest) = String.utf8EncodeChar c ++ decode rest := by
  unfold charChars
  split
  · exact decode_flatMap_byteChars _ rest
  · rename_i hpassing
    have hplain : c ≠ '%' := by
      rintro rfl
      exact hpassing hpercent
    exact decode_cons_of_ne hplain rest

/-- Where percent signs are encoded, decoding gives back the bytes of the text. -/
theorem decode_encodeChars (hpercent : escaped '%' = true) (text : List Char) :
    decode (encodeChars escaped text) = Text.encodeChars text := by
  induction text with
  | nil => rfl
  | cons c text ih =>
      change decode (charChars escaped c ++ encodeChars escaped text) = _
      rw [decode_charChars hpercent, ih]
      rfl

theorem encodeChars_injective (hpercent : escaped '%' = true) {first second : List Char}
    (hsame : encodeChars escaped first = encodeChars escaped second) : first = second := by
  have hbytes : Text.encode (String.ofList first) = Text.encode (String.ofList second) := by
    simp only [Text.encode, String.toList_ofList]
    rw [← decode_encodeChars hpercent first, hsame, decode_encodeChars hpercent]
  exact String.ofList_injective (Text.encode_injective hbytes)

theorem isAlphanum_upperHexDigit {value : Nat} (hsmall : value < 16) :
    (upperHexDigit value).isAlphanum = true := by
  have hdigits : ∀ value < 16, (upperHexDigit value).isAlphanum = true := by decide
  exact hdigits value hsmall

theorem mem_byteChars {byte : UInt8} {c : Char} (hmember : c ∈ byteChars byte) :
    c = '%' ∨ c.isAlphanum = true := by
  have hbound := byte.toNat_lt
  simp only [byteChars, List.mem_cons, List.not_mem_nil, or_false] at hmember
  rcases hmember with rfl | rfl | rfl
  · exact .inl rfl
  · exact .inr (isAlphanum_upperHexDigit (by omega))
  · exact .inr (isAlphanum_upperHexDigit (by omega))

theorem mem_encodeChars {text : List Char} {c : Char} (hmember : c ∈ encodeChars escaped text) :
    c = '%' ∨ c.isAlphanum = true ∨ c ∈ text ∧ escaped c = false := by
  obtain ⟨source, hpresent, hmember⟩ := List.mem_flatMap.mp hmember
  unfold charChars at hmember
  split at hmember
  · obtain ⟨byte, -, hmember⟩ := List.mem_flatMap.mp hmember
    rcases mem_byteChars hmember with hpercent | hdigit
    · exact .inl hpercent
    · exact .inr (.inl hdigit)
  · rename_i hpassing
    cases List.mem_singleton.mp hmember
    exact .inr (.inr ⟨hpresent, Bool.eq_false_iff.mpr hpassing⟩)

theorem encodeChars_of_forall {text : List Char} (hpassing : ∀ c ∈ text, escaped c = false) :
    encodeChars escaped text = text := by
  induction text with
  | nil => rfl
  | cons c text ih =>
      obtain ⟨hfirst, hothers⟩ := List.forall_mem_cons.mp hpassing
      change charChars escaped c ++ encodeChars escaped text = _
      rw [charChars, hfirst, ih hothers]
      rfl

end BucketKeys.Text.Percent
