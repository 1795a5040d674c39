import BucketKeys.Text.Utf8

/-!
Bytes that encode a text are read as that text, and no others are.
-/

namespace BucketKeys.Text

theorem firstChar?_encode (c : Char) (rest : Bytes) :
    firstChar? (String.utf8EncodeChar c ++ rest) = some c := by
  have hshort : (String.utf8EncodeChar c).length ≤ 4 := by
    rw [String.length_utf8EncodeChar]
    exact Char.utf8Size_le_four c
  rw [firstChar?, List.take_append, List.take_of_length_le hshort, List.toByteArray_append]
  exact ByteArray.utf8DecodeChar?_utf8EncodeChar_append

theorem eq_encode_of_firstChar? {bytes : Bytes} {c : Char} (hfirst : firstChar? bytes = some c) :
    bytes = String.utf8EncodeChar c ++ bytes.drop c.utf8Size := by
  obtain ⟨more, hfront⟩ := ByteArray.exists_of_utf8DecodeChar?_eq_some hfirst
  have hlisted : bytes.take 4 = String.utf8EncodeChar c ++ more.data.toList := by
    simpa using congrArg (fun array => array.data.toList) hfront
  have hwhole : bytes = String.utf8EncodeChar c ++ (more.data.toList ++ bytes.drop 4) := by
    rw [← List.append_assoc, ← hlisted, List.take_append_drop]
  have hrest := congrArg (List.drop c.utf8Size) hwhole
  rw [← String.length_utf8EncodeChar, List.drop_left] at hrest
  rw [← String.length_utf8EncodeChar, hrest]
  exact hwhole

theorem glyphs_cons_encode (c : Char) (rest : Bytes) :
    glyphs (String.utf8EncodeChar c ++ rest) = .char c :: glyphs rest := by
  have hfirst := firstChar?_encode c rest
  have length := String.length_utf8EncodeChar c
  cases hencoded : String.utf8EncodeChar c with
  | nil =>
      rw [hencoded] at length
      exact absurd length (Nat.ne_of_lt c.utf8Size_pos)
  | cons byte more =>
      rw [hencoded] at hfirst length
      have hbehind : c.utf8Size - 1 = more.length := by rw [← length, List.length_cons]; rfl
      rw [List.cons_append] at hfirst ⊢
      rw [glyphs, hfirst]
      dsimp only
      rw [hbehind, List.drop_left]

theorem glyphs_encodeChars (text : List Char) :
    glyphs (encodeChars text) = text.map .char := by
  induction text with
  | nil => rw [encodeChars, List.flatMap_nil, glyphs, List.map_nil]
  | cons c rest ih =>
      change glyphs (String.utf8EncodeChar c ++ encodeChars rest) = _
      rw [glyphs_cons_encode, ih, List.map_cons]

theorem eq_encodeChars_of_glyphs {bytes : Bytes} {text : List Char}
    (hread : glyphs bytes = text.map .char) : bytes = encodeChars text := by
  fun_induction glyphs bytes generalizing text with
  | case1 =>
      cases text with
      | nil => rfl
      | cons c rest => cases hread
  | case2 byte rest c hfirst ih =>
      cases text with
      | nil => cases hread
      | cons d text =>
          obtain ⟨hsame, hfollows⟩ := List.cons.inj hread
          cases hsame
          have hsplit := eq_encode_of_firstChar? hfirst
          have hsize := Nat.sub_add_cancel c.utf8Size_pos
          rw [← hsize, List.drop_succ_cons, ih hfollows] at hsplit
          exact hsplit
  | case3 byte rest hfirst ih =>
      cases text with
      | nil => cases hread
      | cons d text => cases hread

theorem glyphs_eq_map_iff {bytes : Bytes} {text : List Char} :
    glyphs bytes = text.map .char ↔ bytes = encodeChars text := by
  refine ⟨eq_encodeChars_of_glyphs, ?_⟩
  rintro rfl
  exact glyphs_encodeChars text

theorem mapM_char?_eq_some_iff {glyphs : List Glyph} {text : List Char} :
    glyphs.mapM Glyph.char? = some text ↔ glyphs = text.map .char := by
  induction glyphs generalizing text with
  | nil => cases text <;> simp
  | cons first rest ih =>
      simp only [List.mapM_cons, Option.bind_eq_bind, Option.bind_eq_some_iff, ih,
        Option.pure_def, Option.some.injEq]
      constructor
      · rintro ⟨c, hread, text, rfl, rfl⟩
        cases first with
        | char c => cases hread; rfl
        | stray byte => cases hread
      · intro hsame
        cases text with
        | nil => cases hsame
        | cons c text =>
            cases hsame
            exact ⟨c, rfl, text, rfl, rfl⟩

theorem decode?_eq_some_iff {bytes : Bytes} {text : String} :
    decode? bytes = some text ↔ bytes = encode text := by
  simp only [decode?, Option.map_eq_some_iff, mapM_char?_eq_some_iff, glyphs_eq_map_iff]
  constructor
  · rintro ⟨chars, rfl, rfl⟩
    rw [encode, String.toList_ofList]
  · rintro rfl
    exact ⟨text.toList, rfl, String.ofList_toList⟩

end BucketKeys.Text
