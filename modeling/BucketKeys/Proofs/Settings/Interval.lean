import BucketKeys.Proofs.Text.Decimal
import BucketKeys.Settings.Interval

/-!
The texts that are read as intervals, and what they mean. Nothing but digits and one letter of ASCII
is read, though digits of every script and the small letters of every capital are looked at.
-/

namespace BucketKeys

namespace Text

theorem exists_blanks (text : List Char) :
    ∃ before after, text = before ++ (trimChars text ++ after) ∧
      ∀ c ∈ before ++ after, isBlank c = true := by
  have hbehind := congrArg List.reverse
    (List.takeWhile_append_dropWhile (p := isBlank) (l := (text.dropWhile isBlank).reverse))
  rw [List.reverse_append, List.reverse_reverse] at hbehind
  refine ⟨text.takeWhile isBlank,
      ((text.dropWhile isBlank).reverse.takeWhile isBlank).reverse, ?_, ?_⟩
  · rw [trimChars, hbehind, List.takeWhile_append_dropWhile]
  · intro c hmember
    rcases List.mem_append.mp hmember with before | after
    · exact List.mem_takeWhile_imp before
    · exact List.mem_takeWhile_imp (List.mem_reverse.mp after)

/-- What begins and ends without white space is all that is left of a text around it. -/
theorem trimChars_between {before middle after body : List Char} {first last : Char}
    (hblank : ∀ c ∈ before ++ after, isBlank c = true) (hbegins : isBlank first = false)
    (hends : isBlank last = false) (hsplit : first :: middle = body ++ [last]) :
    trimChars (before ++ (first :: middle ++ after)) = first :: middle := by
  have hfront : ∀ c ∈ before, isBlank c = true := fun c hmember =>
    hblank c (List.mem_append_left _ hmember)
  have hback : ∀ c ∈ after.reverse, isBlank c = true := fun c hmember =>
    hblank c (List.mem_append_right _ (List.mem_reverse.mp hmember))
  rw [trimChars, List.dropWhile_append_of_pos hfront, List.cons_append,
    List.dropWhile_cons_of_neg (by simp [hbegins]), ← List.cons_append, hsplit, List.reverse_append,
    List.dropWhile_append_of_pos hback, List.reverse_append, List.reverse_singleton,
    List.singleton_append, List.dropWhile_cons_of_neg (by simp [hends]), List.reverse_cons,
    List.reverse_reverse]

theorem lowerCase_ne_nil (c : Char) : lowerCase c ≠ [] := by
  unfold lowerCase
  split
  · exact List.cons_ne_nil _ _
  · split <;> exact List.cons_ne_nil _ _

theorem lowerCaseChars_eq_nil {text : List Char} : lowerCaseChars text = [] ↔ text = [] := by
  cases text with
  | nil => simp [lowerCaseChars]
  | cons c rest => simp [lowerCaseChars, lowerCase_ne_nil]

/-- The letters besides i and k come from one letter of ASCII, and so does what is no letter. -/
theorem lowerCaseChars_eq_cons {text rest : List Char} {small : Char} (hascii : small.toNat < 0x80)
    (hother : small ≠ 'i' ∧ small ≠ 'k') :
    lowerCaseChars text = small :: rest ↔ ∃ c behind, text = c :: behind ∧ c.toNat < 0x80 ∧
      c.toLower = small ∧ lowerCaseChars behind = rest := by
  cases text with
  | nil => simp [lowerCaseChars]
  | cons c behind =>
      change lowerCase c ++ lowerCaseChars behind = small :: rest ↔ _
      constructor
      · intro hsame
        have hmember : small ∈ lowerCase c := by
          cases himage : lowerCase c with
          | nil => exact absurd himage (lowerCase_ne_nil c)
          | cons first more =>
              rw [himage] at hsame
              exact (List.cons.inj hsame).1 ▸ List.mem_cons_self
        -- of the capitals beyond ASCII two have a small letter in it
        rcases ascii_of_mem_lowerCase hmember hascii with hplain | ⟨-, hdotted⟩ | ⟨-, hkelvin⟩
        · rw [lowerCase_of_ascii hplain] at hsame
          obtain ⟨hlower, hfollows⟩ := List.cons.inj hsame
          exact ⟨c, behind, rfl, hplain, hlower, hfollows⟩
        · exact absurd hdotted hother.1
        · exact absurd hkelvin hother.2
      · rintro ⟨_, _, ⟨⟩, hplain, rfl, rfl⟩
        rw [lowerCase_of_ascii hplain]
        rfl

end Text

namespace Settings

open Text
open Time.Rfc3339 (digitsValue)

inductive TimeUnit where
  | second
  | minute
  | hour
  | day

namespace TimeUnit

def letter : TimeUnit → Char
  | second => 's'
  | minute => 'm'
  | hour => 'h'
  | day => 'd'

def seconds : TimeUnit → Nat
  | second => 1
  | minute => 60
  | hour => 60 * 60
  | day => 24 * 60 * 60

def IsNamed (unit : TimeUnit) (c : Char) : Prop :=
  c = unit.letter ∨ c = unit.letter.toUpper

end TimeUnit

theorem unitSeconds?_eq_some_iff {c : Char} {seconds : Nat} :
    Interval.unitSeconds? c = some seconds ↔
      ∃ unit : TimeUnit, c = unit.letter ∧ unit.seconds = seconds := by
  constructor
  · intro hknown
    unfold Interval.unitSeconds? at hknown
    split at hknown <;> cases hknown
    · exact ⟨.second, rfl, rfl⟩
    · exact ⟨.minute, rfl, rfl⟩
    · exact ⟨.hour, rfl, rfl⟩
    · exact ⟨.day, rfl, rfl⟩
  · rintro ⟨unit, rfl, rfl⟩
    cases unit <;> rfl

theorem ascii_letter (unit : TimeUnit) :
    unit.letter.toNat < 0x80 ∧ unit.letter ≠ 'i' ∧ unit.letter ≠ 'k' := by
  cases unit <;> decide

theorem isNamed_iff {unit : TimeUnit} {c : Char} :
    unit.IsNamed c ↔ c.toNat < 0x80 ∧ c.toLower = unit.letter := by
  have hall : ∀ code < 0x80, (Char.ofNat code).toLower = unit.letter →
      unit.IsNamed (Char.ofNat code) := by
    unfold TimeUnit.IsNamed
    cases unit <;> decide +kernel
  constructor
  · rintro (rfl | rfl) <;> cases unit <;> decide
  · rintro ⟨hascii, hlower⟩
    simpa [hlower] using hall c.toNat hascii

theorem toLower_eq_digit_iff {c digit : Char} (hascii : c.toNat < 0x80)
    (hdecimal : digit.isDigit = true) : c.toLower = digit ↔ c = digit := by
  have hall : ∀ code < 0x80, (Char.ofNat code).toLower.isDigit = true ∨
      (Char.ofNat code).isDigit = true → (Char.ofNat code).toLower = Char.ofNat code := by
    decide +kernel
  have hsame := hall c.toNat hascii
  rw [Char.ofNat_toNat] at hsame
  constructor
  · intro hlower
    exact (hsame (.inl (hlower ▸ hdecimal))).symm.trans hlower
  · rintro rfl
    exact hsame (.inr hdecimal)

theorem ascii_of_isDigit {c : Char} (hdigit : c.isDigit = true) :
    c.toNat < 0x80 ∧ c ≠ 'i' ∧ c ≠ 'k' := by
  have hbounds := isDigit_iff.mp hdigit
  refine ⟨by omega, ?_, ?_⟩ <;> rintro rfl <;> exact absurd hdigit (by decide)

theorem lowerCaseChars_eq_measure {text digits : List Char} {unit : TimeUnit}
    (hdecimal : ∀ c ∈ digits, c.isDigit = true) :
    lowerCaseChars text = digits ++ [unit.letter] ↔
      ∃ c, text = digits ++ [c] ∧ unit.IsNamed c := by
  induction digits generalizing text with
  | nil =>
      obtain ⟨hascii, hother⟩ := ascii_letter unit
      rw [List.nil_append, lowerCaseChars_eq_cons hascii hother]
      simp only [lowerCaseChars_eq_nil, isNamed_iff, List.nil_append]
      constructor
      · rintro ⟨c, _, rfl, hplain, hlower, rfl⟩
        exact ⟨c, rfl, hplain, hlower⟩
      · rintro ⟨c, rfl, hplain, hlower⟩
        exact ⟨c, [], rfl, hplain, hlower, rfl⟩
  | cons digit digits ih =>
      obtain ⟨hfirst, hothers⟩ := List.forall_mem_cons.mp hdecimal
      obtain ⟨hascii, hother⟩ := ascii_of_isDigit hfirst
      rw [List.cons_append, lowerCaseChars_eq_cons hascii hother]
      constructor
      · rintro ⟨c, behind, rfl, hplain, hlower, hfollows⟩
        obtain ⟨named, rfl, hnames⟩ := (ih hothers).mp hfollows
        rw [(toLower_eq_digit_iff hplain hfirst).mp hlower]
        exact ⟨named, rfl, hnames⟩
      · rintro ⟨c, rfl, hnames⟩
        exact ⟨digit, digits ++ [c], rfl, hascii, (toLower_eq_digit_iff hascii hfirst).mpr rfl,
          (ih hothers).mpr ⟨c, rfl, hnames⟩⟩

namespace Interval

theorem split?_eq_some_iff {text digits : List Char} {seconds : Nat} :
    split? text = some (digits, seconds) ↔
      digits ≠ [] ∧ (∀ c ∈ digits, isDecimalDigit c = true) ∧
        ∃ unit : TimeUnit, lowerCaseChars text = digits ++ [unit.letter] ∧
          unit.seconds = seconds := by
  unfold split?
  generalize lowerCaseChars text = lower
  dsimp only
  constructor
  · intro found
    split at found
    · rename_i first rest unit front back
      obtain ⟨_, known, same⟩ := Option.map_eq_some_iff.mp found
      obtain ⟨unit, rfl, rfl⟩ := unitSeconds?_eq_some_iff.mp known
      cases same
      refine ⟨by rw [front]; exact List.cons_ne_nil _ _,
          fun c => List.mem_takeWhile_imp, unit, ?_, rfl⟩
      rw [← back, List.takeWhile_append_dropWhile]
    · cases found
  · rintro ⟨some, all, unit, rfl, rfl⟩
    -- the letter is no digit, so that the digits end in front of it
    have stops : isDecimalDigit unit.letter = false := by cases unit <;> decide
    have front : (digits ++ [unit.letter]).takeWhile isDecimalDigit = digits := by
      rw [List.takeWhile_append_of_pos all, List.takeWhile_cons_of_neg (by simp [stops]),
        List.append_nil]
    have back : (digits ++ [unit.letter]).dropWhile isDecimalDigit = [unit.letter] := by
      rw [List.dropWhile_append_of_pos all, List.dropWhile_cons_of_neg (by simp [stops])]
    rw [front, back]
    cases digits with
    | nil => exact absurd rfl some
    | cons first rest =>
        exact Option.map_eq_some_iff.mpr ⟨_, unitSeconds?_eq_some_iff.mpr ⟨unit, rfl, rfl⟩, rfl⟩

/-- Digits and the letter of a unit, and the seconds that they make. -/
inductive Measure : List Char → Nat → Prop where
  | mk {digits : List Char} {c : Char} (unit : TimeUnit) (some : digits ≠ [])
      (decimal : ∀ c ∈ digits, c.isDigit = true) (named : unit.IsNamed c)
      (positive : 1 ≤ digitsValue digits) (small : digitsValue digits < 2 ^ 64)
      (fits : digitsValue digits * unit.seconds < 2 ^ 64) :
      Measure (digits ++ [c]) (digitsValue digits * unit.seconds)

theorem readNat_digits {digits : List Char} {count : Nat} (hsome : digits ≠ [])
    (hall : ∀ c ∈ digits, isDecimalDigit c = true) :
    readNat UInt64.size digits = .ok count ↔
      (∀ c ∈ digits, c.isDigit = true) ∧ digitsValue digits = count ∧ count < 2 ^ 64 := by
  cases digits with
  | nil => exact absurd rfl hsome
  | cons first rest =>
      have hunsigned : first ≠ '+' := by
        rintro rfl
        exact absurd (hall '+' List.mem_cons_self) (by decide)
      rw [readNat_eq_ok_iff (by decide), numeral_of_ne_plus hunsigned, and_assoc]
      rfl

theorem readTrimmed_eq_ok_iff {text : List Char} {span : Time.Span} :
    readTrimmed text = .ok span ↔ ∃ seconds, Measure text seconds ∧ span = .ofSeconds seconds := by
  constructor
  · intro read
    unfold readTrimmed at read
    dsimp only at read
    split at read
    · cases read
    · split at read
      · cases read
      · rename_i digits perUnit found
        obtain ⟨some, all, unit, lower, rfl⟩ := split?_eq_some_iff.mp found
        split at read
        · cases read
        · cases read
        · rename_i count nonzero number
          -- digits of other scripts came as far as this, and made no number
          obtain ⟨decimal, rfl, small⟩ := (readNat_digits some all).mp number
          obtain ⟨c, rfl, named⟩ := (lowerCaseChars_eq_measure decimal).mp lower
          split at read
          · rename_i fits
            cases read
            exact ⟨_, .mk unit some decimal named (Nat.pos_of_ne_zero nonzero) small fits, rfl⟩
          · cases read
  · rintro ⟨_, ⟨unit, some, decimal, named, positive, small, fits⟩, rfl⟩
    rename_i digits c
    have all : ∀ c ∈ digits, isDecimalDigit c = true := fun c member =>
      isDecimalDigit_of_ascii (decimal c member)
    have lower := (lowerCaseChars_eq_measure decimal).mpr ⟨c, rfl, named⟩
    have found := split?_eq_some_iff.mpr ⟨some, all, unit, lower, rfl⟩
    have number := (readNat_digits some all).mpr ⟨decimal, rfl, small⟩
    have nonempty : (digits ++ [c]).isEmpty = false := by simp
    simp only [readTrimmed, nonempty, found, Bool.false_eq_true, if_false, number]
    split
    · rename_i fault
      cases fault
    · rename_i zero
      rw [Except.ok.inj zero] at positive
      cases positive
    · rename_i count _ same
      rw [← Except.ok.inj same]
      exact if_pos fits

/-- An interval in writing, with white space around it or without. -/
def Means (text : List Char) (seconds : Nat) : Prop :=
  ∃ before body after, text = before ++ (body ++ after) ∧
    (∀ c ∈ before ++ after, isBlank c = true) ∧ Measure body seconds

theorem Measure.trimChars {before body after : List Char} {seconds : Nat}
    (hmeasure : Measure body seconds) (hblank : ∀ c ∈ before ++ after, isBlank c = true) :
    trimChars (before ++ (body ++ after)) = body := by
  cases hmeasure with
  | @mk digits c unit hsome hdecimal hnamed =>
      cases digits with
      | nil => exact absurd rfl hsome
      | cons first rest =>
          have hbegins : isBlank first = false := by
            have hbounds := isDigit_iff.mp (hdecimal first List.mem_cons_self)
            simp only [isBlank, Bool.or_eq_false_iff, Bool.and_eq_false_iff, beq_eq_false_iff_ne,
              decide_eq_false_iff_not]
            omega
          have hends : isBlank c = false := by
            rcases hnamed with rfl | rfl <;> cases unit <;> decide
          have hsplit : first :: (rest ++ [c]) = (first :: rest) ++ [c] := rfl
          exact trimChars_between hblank hbegins hends hsplit

theorem read_eq_ok_iff {text : String} {span : Time.Span} :
    read text = .ok span ↔ ∃ seconds, Means text.toList seconds ∧ span = .ofSeconds seconds := by
  rw [read, readTrimmed_eq_ok_iff]
  constructor
  · rintro ⟨seconds, hmeasure, hsame⟩
    obtain ⟨before, after, hsplit, hblank⟩ := exists_blanks text.toList
    exact ⟨seconds, ⟨before, _, after, hsplit, hblank, hmeasure⟩, hsame⟩
  · rintro ⟨seconds, ⟨before, body, after, hsplit, hblank, hmeasure⟩, hsame⟩
    rw [hsplit, hmeasure.trimChars hblank]
    exact ⟨seconds, hmeasure, hsame⟩

theorem read_eq_error_iff {text : String} :
    (∃ fault, read text = .error fault) ↔ ∀ seconds, ¬ Means text.toList seconds := by
  constructor
  · rintro ⟨fault, hfails⟩ seconds hmeans
    cases (read_eq_ok_iff.mpr ⟨seconds, hmeans, rfl⟩).symm.trans hfails
  · intro hmeaningless
    cases hknown : read text with
    | error fault => exact ⟨fault, rfl⟩
    | ok span =>
        obtain ⟨seconds, hmeans, -⟩ := read_eq_ok_iff.mp hknown
        exact absurd hmeans (hmeaningless seconds)

theorem Means.bounds {text : List Char} {seconds : Nat} (hmeans : Means text seconds) :
    0 < seconds ∧ seconds < 2 ^ 64 := by
  obtain ⟨before, body, after, -, -, unit, -, -, -, hpositive, -, hfits⟩ := hmeans
  have hsome : 0 < unit.seconds := by cases unit <;> decide
  exact ⟨Nat.mul_pos hpositive hsome, hfits⟩

/-- Exactly the texts that mean a number of seconds are read, as so many seconds and no part of one
more. -/
theorem intervals_read (text : String) :
    (∀ span : Time.Span, read text = .ok span ↔
      ∃ seconds, Means text.toList seconds ∧ seconds < 2 ^ 64 ∧ span.nanos = seconds * 10 ^ 9) ∧
    ((∃ fault, read text = .error fault) ↔ ∀ seconds, ¬ Means text.toList seconds) := by
  refine ⟨fun span => ?_, read_eq_error_iff⟩
  rw [read_eq_ok_iff]
  constructor
  · rintro ⟨seconds, hmeans, rfl⟩
    exact ⟨seconds, hmeans, hmeans.bounds.2, rfl⟩
  · rintro ⟨seconds, hmeans, -, hnanos⟩
    exact ⟨seconds, hmeans, congrArg Time.Span.mk hnanos⟩

example : read "\u2003010M " = .ok (.ofSeconds 600) := by decide +kernel

end Interval

end Settings

end BucketKeys
