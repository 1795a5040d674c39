import BucketKeys.Json.Read
import BucketKeys.Text.LowerCase

/-!
How a string may be written in JSON text. Reading a string finds the characters that are written
there, and what it cannot find is written in no way.
-/

namespace BucketKeys.Json

open Text (Glyph hexValue?)
open Read (Input)

inductive FourHex : List Char → Nat → Prop where
  | mk {a b c d : Char} {w x y z : Nat} (first : hexValue? a = some w)
      (second : hexValue? b = some x)
      (third : hexValue? c = some y) (fourth : hexValue? d = some z) :
      FourHex [a, b, c, d] (w * 4096 + x * 256 + y * 16 + z)

def escapes : List (Char × Char) :=
  [('"', '"'), ('\\', '\\'), ('/', '/'), ('b', '\x08'), ('f', '\x0c'), ('n', '\n'), ('r', '\r'),
    ('t', '\t')]

inductive Spells : List Char → Char → Prop where
  | plain {c : Char} (shown : 0x20 ≤ c.toNat) (unquoted : c ≠ '"') (unescaped : c ≠ '\\') :
      Spells [c] c
  | escape {letter c : Char} (known : (letter, c) ∈ escapes) : Spells ['\\', letter] c
  | unit {digits : List Char} {c : Char} (four : FourHex digits c.toNat) :
      Spells ('\\' :: 'u' :: digits) c
  /-- A character beyond the sixteen bits of a unit, as a surrogate pair. -/
  | pair {leading trailing : List Char} {high low : Nat} {c : Char}
      (first : FourHex leading (0xD800 + high)) (second : FourHex trailing (0xDC00 + low))
      (below : high < 0x400 ∧ low < 0x400) (code : c.toNat = 0x10000 + high * 0x400 + low) :
      Spells ('\\' :: 'u' :: (leading ++ '\\' :: 'u' :: trailing)) c

inductive Spelled : List Char → List Char → Prop where
  | nil : Spelled [] []
  | cons {front rest text : List Char} {c : Char} (spells : Spells front c)
      (spelled : Spelled rest text) : Spelled (front ++ rest) (c :: text)

def Quotes (written : List Char) (text : String) : Prop :=
  ∃ body, written = '"' :: (body ++ ['"']) ∧ Spelled body text.toList

theorem simpleEscape?_eq_some_iff {letter c : Char} :
    Read.simpleEscape? letter = some c ↔ (letter, c) ∈ escapes := by
  constructor
  · intro hknown
    unfold Read.simpleEscape? at hknown
    split at hknown <;> cases hknown <;> decide
  · intro hmember
    simp only [escapes, List.mem_cons, List.not_mem_nil, or_false, Prod.mk.injEq] at hmember
    rcases hmember with h | h | h | h | h | h | h | h <;> obtain ⟨rfl, rfl⟩ := h <;> rfl

theorem hexValue?_lt {c : Char} {value : Nat} (hknown : hexValue? c = some value) : value < 16 := by
  unfold hexValue? at hknown
  dsimp only at hknown
  split at hknown
  · cases hknown
    omega
  · split at hknown
    · cases hknown
      omega
    · split at hknown
      · cases hknown
        omega
      · cases hknown

theorem FourHex.lt {digits : List Char} {value : Nat} (hfour : FourHex digits value) :
    value < 0x10000 := by
  obtain ⟨hfirst, hsecond, hthird, hfourth⟩ := hfour
  have := hexValue?_lt hfirst
  have := hexValue?_lt hsecond
  have := hexValue?_lt hthird
  have := hexValue?_lt hfourth
  omega

theorem fourHex?_eq_some_iff {input rest : Input} {value : Nat} :
    Read.fourHex? input = some (value, rest) ↔
      ∃ digits, input = digits.map Glyph.char ++ rest ∧ FourHex digits value := by
  constructor
  · intro hread
    unfold Read.fourHex? at hread
    split at hread
    · rename_i a b c d tail
      simp only [bind, pure, Option.bind_eq_some_iff, Option.some.injEq, Prod.mk.injEq] at hread
      obtain ⟨w, hfirst, x, hsecond, y, hthird, z, hfourth, rfl, rfl⟩ := hread
      have value : (w * 16 + x) * 256 + (y * 16 + z) = w * 4096 + x * 256 + y * 16 + z := by omega
      refine ⟨[a, b, c, d], rfl, ?_⟩
      rw [value]
      exact .mk hfirst hsecond hthird hfourth
    · cases hread
  · rintro ⟨_, rfl, hfirst, hsecond, hthird, hfourth⟩
    simp only [List.map_cons, List.map_nil, List.cons_append, List.nil_append, Read.fourHex?,
      hfirst, hsecond, hthird, hfourth, bind, pure, Option.bind_some, Option.some.injEq,
      Prod.mk.injEq, and_true]
    omega

theorem trailing?_eq_some_iff {input rest : Input} {unit : Nat} :
    Read.trailing? input = some (unit, rest) ↔ ∃ digits,
      input = ('\\' :: 'u' :: digits).map Glyph.char ++ rest ∧ FourHex digits unit ∧
        0xDC00 ≤ unit ∧ unit < 0xE000 := by
  constructor
  · intro hread
    unfold Read.trailing? at hread
    split at hread
    · rename_i tail
      split at hread
      · rename_i unit rest hknown
        obtain ⟨digits, rfl, hfour⟩ := fourHex?_eq_some_iff.mp hknown
        split at hread
        · rename_i htrailing
          cases hread
          refine ⟨digits, rfl, hfour, ?_⟩
          simpa [Read.isTrailing] using htrailing
        · cases hread
      · cases hread
    · cases hread
  · rintro ⟨digits, rfl, hfour, hbounds⟩
    have hknown : Read.fourHex? (digits.map Glyph.char ++ rest) = some (unit, rest) :=
      fourHex?_eq_some_iff.mpr ⟨digits, rfl, hfour⟩
    have htrailing : Read.isTrailing unit = true := by simpa [Read.isTrailing] using hbounds
    simp [Read.trailing?, hknown, htrailing]

theorem isLeading_iff {unit : Nat} :
    Read.isLeading unit = true ↔ 0xD800 ≤ unit ∧ unit < 0xDC00 := by
  simp [Read.isLeading]

theorem isTrailing_iff {unit : Nat} :
    Read.isTrailing unit = true ↔ 0xDC00 ≤ unit ∧ unit < 0xE000 := by
  simp [Read.isTrailing]

theorem spells_unit {digits : List Char} {unit : Nat} (hfour : FourHex digits unit)
    (hsingle : ¬ Read.isLeading unit = true) (halone : ¬ Read.isTrailing unit = true) :
    Spells ('\\' :: 'u' :: digits) (Char.ofNat unit) := by
  have hsmall := hfour.lt
  rw [isLeading_iff] at hsingle
  rw [isTrailing_iff] at halone
  have hproper : unit.isValidChar := by
    unfold Nat.isValidChar
    omega
  have hcode := Text.toNat_ofNat hproper
  refine .unit ?_
  rw [hcode]
  exact hfour

theorem spells_pair {leading trailing : List Char} {first second : Nat}
    (hhere : FourHex leading first) (hleads : Read.isLeading first = true)
    (hthere : FourHex trailing second) (htrails : 0xDC00 ≤ second ∧ second < 0xE000) :
    Spells ('\\' :: 'u' :: (leading ++ '\\' :: 'u' :: trailing)) (Read.pairChar first second) := by
  rw [isLeading_iff] at hleads
  obtain ⟨high, rfl⟩ := Nat.exists_eq_add_of_le hleads.1
  obtain ⟨low, rfl⟩ := Nat.exists_eq_add_of_le htrails.1
  have hbelow : high < 0x400 ∧ low < 0x400 := by omega
  have hproper : (0x10000 + high * 0x400 + low).isValidChar := by
    unfold Nat.isValidChar
    omega
  refine .pair hhere hthere hbelow ?_
  rw [Read.pairChar, Nat.add_sub_cancel_left, Nat.add_sub_cancel_left]
  exact Text.toNat_ofNat hproper

theorem push_eq_some_iff {result : Read.StringResult} {c : Option Char} {text : List Char}
    {rest : Input} :
    result.push c = some (some text, rest) ↔ ∃ first behind, c = some first ∧
      text = first :: behind ∧ result = some (some behind, rest) := by
  cases result with
  | none => simp [Read.StringResult.push]
  | some result =>
      obtain ⟨chars, left⟩ := result
      cases c with
      | none => simp [Read.StringResult.push]
      | some c =>
          cases chars with
          | none => simp [Read.StringResult.push]
          | some chars =>
              simp only [Read.StringResult.push, Option.map_some, Option.bind_some,
                Option.some.injEq, Prod.mk.injEq]
              constructor
              · rintro ⟨rfl, rfl⟩
                exact ⟨c, chars, rfl, rfl, rfl, rfl⟩
              · rintro ⟨_, _, rfl, rfl, rfl, rfl⟩
                exact ⟨rfl, rfl⟩

/-- The text is spelled in front of a closing quote. -/
def Closes (input : Input) (text : List Char) (rest : Input) : Prop :=
  ∃ body, input = body.map Glyph.char ++ .char '"' :: rest ∧ Spelled body text

theorem Closes.push {result : Read.StringResult} {front : List Char} {c : Char} {tail rest : Input}
    {text : List Char} (hspells : Spells front c)
    (hread : result.push (some c) = some (some text, rest))
    (hbehind : ∀ {text}, result = some (some text, rest) → Closes tail text rest) :
    Closes (front.map Glyph.char ++ tail) text rest := by
  obtain ⟨_, text, ⟨⟩, rfl, hfollows⟩ := push_eq_some_iff.mp hread
  obtain ⟨body, rfl, hspelled⟩ := hbehind hfollows
  refine ⟨front ++ body, ?_, .cons hspells hspelled⟩
  rw [List.map_append, List.append_assoc]

theorem closes_of_stringBody {input rest : Input} {text : List Char}
    (hread : Read.stringBody input = some (some text, rest)) : Closes input text rest := by
  fun_induction Read.stringBody input generalizing text with
  | case1 | case4 | case10 | case11 => cases hread
  | case2 | case6 | case7 =>
      obtain ⟨_, _, ⟨⟩, -⟩ := push_eq_some_iff.mp hread
  | case3 tail =>
      cases hread
      exact ⟨[], rfl, .nil⟩
  -- a unit that leads counts with the one behind it, as one character
  | case5 tail unit behind hfour _ hleads second after htrailing _ ih =>
      obtain ⟨leading, rfl, hhere⟩ := fourHex?_eq_some_iff.mp hfour
      obtain ⟨digits, rfl, hthere, htrails⟩ := trailing?_eq_some_iff.mp htrailing
      simpa using Closes.push (spells_pair hhere hleads hthere htrails) hread ih
  | case8 tail unit after hfour _ hsingle halone ih =>
      obtain ⟨digits, rfl, hhere⟩ := fourHex?_eq_some_iff.mp hfour
      exact Closes.push (spells_unit hhere hsingle halone) hread ih
  | case9 letter tail _ c hknown ih =>
      exact Closes.push (.escape (simpleEscape?_eq_some_iff.mp hknown)) hread ih
  | case12 c tail hunquoted _ _ hproper ih =>
      obtain ⟨hshown, hunescaped⟩ := not_or.mp hproper
      exact Closes.push (.plain (Nat.le_of_not_lt hshown) hunquoted hunescaped) hread ih

theorem not_surrogate (c : Char) :
    ¬ Read.isLeading c.toNat = true ∧ ¬ Read.isTrailing c.toNat = true := by
  have hproper := c.valid
  rw [isLeading_iff, isTrailing_iff]
  change c.toNat.isValidChar at hproper
  unfold Nat.isValidChar at hproper
  omega

theorem stringBody_spells {front : List Char} {c : Char} (hspells : Spells front c) (tail : Input) :
    Read.stringBody (front.map Glyph.char ++ tail) = (Read.stringBody tail).push (some c) := by
  cases hspells with
  | plain hshown hunquoted hunescaped =>
      have hvisible : ¬ c.toNat < 0x20 := Nat.not_lt.mpr hshown
      simp [Read.stringBody, hunescaped, hvisible]
  | @escape letter c hknown =>
      have hread := simpleEscape?_eq_some_iff.mpr hknown
      have hother : letter ≠ 'u' := by
        rintro rfl
        cases hread
      rw [List.map_cons, List.map_singleton, List.cons_append, List.singleton_append,
        Read.stringBody, hread]
      exact hother
  | @unit digits c hfour =>
      have hknown : Read.fourHex? (digits.map Glyph.char ++ tail) = some (c.toNat, tail) :=
        fourHex?_eq_some_iff.mpr ⟨digits, rfl, hfour⟩
      -- no character is half of a pair, so that the unit is read by itself
      obtain ⟨hsingle, halone⟩ := not_surrogate c
      rw [List.map_cons, List.map_cons, List.cons_append, List.cons_append, Read.stringBody]
      split
      · rename_i missing
        cases hknown.symm.trans missing
      · rename_i hfound
        cases hknown.symm.trans hfound
        rw [if_neg hsingle, if_neg halone, Char.ofNat_toNat]
  | @pair leading trailing high low c hfirst second hbelow hcode =>
      have hhere : Read.fourHex? (leading.map Glyph.char ++
          (('\\' :: 'u' :: trailing).map Glyph.char ++ tail)) =
            some (0xD800 + high, ('\\' :: 'u' :: trailing).map Glyph.char ++ tail) :=
        fourHex?_eq_some_iff.mpr ⟨leading, rfl, hfirst⟩
      have hthere : Read.trailing? (('\\' :: 'u' :: trailing).map Glyph.char ++ tail) =
          some (0xDC00 + low, tail) :=
        trailing?_eq_some_iff.mpr ⟨trailing, rfl, second, by omega⟩
      have hleads : Read.isLeading (0xD800 + high) = true := isLeading_iff.mpr (by omega)
      have hsame : Read.pairChar (0xD800 + high) (0xDC00 + low) = c := by
        rw [Read.pairChar, Nat.add_sub_cancel_left, Nat.add_sub_cancel_left, ← hcode,
          Char.ofNat_toNat]
      rw [List.map_cons, List.map_cons, List.cons_append, List.cons_append, List.map_append,
        List.append_assoc, Read.stringBody]
      split
      · rename_i missing
        cases hhere.symm.trans missing
      · rename_i hfound
        cases hhere.symm.trans hfound
        rw [if_pos hleads]
        split
        · rename_i hfound
          cases hthere.symm.trans hfound
          rw [hsame]
        · rename_i missing
          cases hthere.symm.trans missing

theorem stringBody_of_closes {input rest : Input} {text : List Char}
    (hcloses : Closes input text rest) : Read.stringBody input = some (some text, rest) := by
  obtain ⟨body, rfl, hspelled⟩ := hcloses
  induction hspelled with
  | nil => rw [List.map_nil, List.nil_append, Read.stringBody]
  | cons hspells hspelled ih =>
      rw [List.map_append, List.append_assoc, stringBody_spells hspells, ih]
      rfl

theorem stringBody_eq_some_iff {input rest : Input} {text : List Char} :
    Read.stringBody input = some (some text, rest) ↔ Closes input text rest :=
  ⟨closes_of_stringBody, stringBody_of_closes⟩

end BucketKeys.Json
