import BucketKeys.Proofs.Time.Calendar
import BucketKeys.Time.Rfc3339
import Mathlib.Data.List.Induction
import Mathlib.Data.List.TakeWhile
import Mathlib.Data.Option.Basic
import Mathlib.Tactic.Ring

/-!
The texts that are read as instants, and the instants that they mean. All that is read is spelled in
this way, and all that is spelled in this way is read. The texts of RFC 3339 are among them.
-/

namespace BucketKeys.Time.Rfc3339

open BucketKeys.Text

/-! Digits -/

theorem isDigit_digitChar {value : Nat} (h : value < 10) : (digitChar value).isDigit = true := by
  have hall : ∀ v < 10, (digitChar v).isDigit = true := by decide
  exact hall value h

theorem toNat_digitChar {value : Nat} (h : value < 10) : (digitChar value).toNat - 48 = value := by
  have hall : ∀ v < 10, (digitChar v).toNat - 48 = v := by decide
  exact hall value h

theorem isDigit_of_mem_fixedDigits {width value : Nat} {c : Char}
    (hmember : c ∈ fixedDigits width value) : c.isDigit = true := by
  induction width generalizing value with
  | zero => cases hmember
  | succ width ih =>
      rcases List.mem_append.mp hmember with hearlier | hlast
      · exact ih hearlier
      · rw [List.mem_singleton.mp hlast]
        exact isDigit_digitChar (Nat.mod_lt value (by decide))

theorem digitsValue_concat (digits : List Char) (last : Char) :
    digitsValue (digits ++ [last]) = digitsValue digits * 10 + (last.toNat - 48) := by
  simp [digitsValue]

theorem digitsValue_append (first second : List Char) :
    digitsValue (first ++ second) =
        digitsValue first * 10 ^ second.length + digitsValue second := by
  induction second using List.reverseRecOn with
  | nil => simp [digitsValue]
  | append_singleton second last ih =>
      rw [← List.append_assoc, digitsValue_concat, digitsValue_concat, ih,
        List.length_append, List.length_singleton, Nat.pow_succ]
      ring

theorem digitsValue_lt {digits : List Char} (hall : ∀ c ∈ digits, c.isDigit = true) :
    digitsValue digits < 10 ^ digits.length := by
  induction digits using List.reverseRecOn with
  | nil => exact Nat.one_pos
  | append_singleton digits last ih =>
      have hearlier := ih fun c hmember => hall c (List.mem_append_left _ hmember)
      have hdigit : last.toNat ≤ 57 := by
        have hbounds := hall last (List.mem_append_right _ (.head _))
        simp only [Char.isDigit, Bool.and_eq_true, decide_eq_true_eq] at hbounds
        exact hbounds.2
      rw [digitsValue_concat, List.length_append, List.length_singleton, Nat.pow_succ]
      omega

theorem digitsValue_fixedDigits (width value : Nat) :
    digitsValue (fixedDigits width value) = value % 10 ^ width := by
  induction width generalizing value with
  | zero => exact (Nat.mod_one value).symm
  | succ width ih =>
      rw [fixedDigits, digitsValue_concat, ih,
        toNat_digitChar (Nat.mod_lt value (by decide)), Nat.pow_succ, Nat.mul_comm (10 ^ width),
        Nat.mod_mul]
      omega

theorem eq_digitChar_of_digitValue? {c : Char} {value : Nat} (hread : digitValue? c = some value) :
    value < 10 ∧ c = digitChar value := by
  unfold digitValue? at hread
  split at hread
  · rename_i digit
    cases hread
    refine ⟨by omega, ?_⟩
    rw [digitChar, Nat.add_sub_cancel' digit.1, Char.ofNat_toNat]
  · cases hread

theorem fixedDigits_two (value : Nat) :
    fixedDigits 2 value = [digitChar (value / 10 % 10), digitChar (value % 10)] := rfl

theorem fixedDigits_four (value : Nat) :
    fixedDigits 4 value = [digitChar (value / 10 / 10 / 10 % 10), digitChar (value / 10 / 10 % 10),
      digitChar (value / 10 % 10), digitChar (value % 10)] := rfl

theorem twoDigits?_digitChar {tens ones : Nat} (htens : tens < 10) (hones : ones < 10) :
    twoDigits? (digitChar tens) (digitChar ones) = some (tens * 10 + ones) := by
  simp [twoDigits?, digitValue?_digitChar, htens, hones]

theorem twoDigits?_parts {value : Nat} (h : value < 100) :
    twoDigits? (digitChar (value / 10 % 10)) (digitChar (value % 10)) = some value := by
  rw [twoDigits?_digitChar (Nat.mod_lt _ (by decide)) (Nat.mod_lt _ (by decide))]
  congr 1
  omega

theorem eq_fixedDigits_of_twoDigits? {a b : Char} {value : Nat}
    (hread : twoDigits? a b = some value) : value < 100 ∧ [a, b] = fixedDigits 2 value := by
  simp only [twoDigits?, Option.bind_eq_bind, Option.bind_eq_some_iff, Option.pure_def,
    Option.some.injEq] at hread
  obtain ⟨tens, hfirst, ones, hsecond, rfl⟩ := hread
  obtain ⟨hsmall, rfl⟩ := eq_digitChar_of_digitValue? hfirst
  obtain ⟨hlittle, rfl⟩ := eq_digitChar_of_digitValue? hsecond
  refine ⟨by omega, ?_⟩
  rw [fixedDigits_two, show (tens * 10 + ones) / 10 % 10 = tens by omega,
    show (tens * 10 + ones) % 10 = ones by omega]

theorem eq_fixedDigits_of_pairs {a b c d : Char} {centuries years : Nat}
    (hfirst : twoDigits? a b = some centuries) (hsecond : twoDigits? c d = some years) :
    centuries * 100 + years < 10000 ∧ [a, b, c, d] = fixedDigits 4 (centuries * 100 + years) := by
  obtain ⟨hsmall, hhigh⟩ := eq_fixedDigits_of_twoDigits? hfirst
  obtain ⟨hlittle, hlow⟩ := eq_fixedDigits_of_twoDigits? hsecond
  rw [fixedDigits_two] at hhigh hlow
  refine ⟨by omega, ?_⟩
  rw [fixedDigits_four,
    show (centuries * 100 + years) / 10 / 10 / 10 % 10 = centuries / 10 % 10 by omega,
    show (centuries * 100 + years) / 10 / 10 % 10 = centuries % 10 by omega,
    show (centuries * 100 + years) / 10 % 10 = years / 10 % 10 by omega,
    show (centuries * 100 + years) % 10 = years % 10 by omega]
  cases hhigh
  cases hlow
  rfl

/-! The fraction -/

/-- A fraction without digits is not written. -/
def fractionChars : List Char → List Char
  | [] => []
  | first :: rest => '.' :: first :: rest

theorem splitFraction?_eq_some {chars rest : List Char} {nanos : Nat}
    (hsplit : splitFraction? chars = some (nanos, rest)) :
    ∃ digits, (∀ c ∈ digits, c.isDigit = true) ∧ chars = fractionChars digits ++ rest ∧
      fractionNanos digits = nanos := by
  unfold splitFraction? at hsplit
  split at hsplit
  · rename_i behind
    dsimp only at hsplit
    split at hsplit
    · cases hsplit
    · rename_i hsome
      cases hsplit
      refine ⟨behind.takeWhile Char.isDigit, fun c hmember => List.mem_takeWhile_imp hmember, ?_, rfl⟩
      cases htaken : behind.takeWhile Char.isDigit with
      | nil => simp [htaken] at hsome
      | cons first digits =>
          rw [fractionChars, List.cons_append, ← htaken, List.takeWhile_append_dropWhile]
  · cases hsplit
    exact ⟨[], by rintro c ⟨⟩, rfl, rfl⟩

theorem splitFraction?_append {digits rest : List Char} (hall : ∀ c ∈ digits, c.isDigit = true)
    {head : Char} {tail : List Char} (hstarts : rest = head :: tail) (hplain : head.isDigit = false)
    (hpointless : head ≠ '.') :
    splitFraction? (fractionChars digits ++ rest) = some (fractionNanos digits, rest) := by
  subst hstarts
  cases digits with
  | nil =>
      rw [fractionChars, List.nil_append, splitFraction?]
      · rfl
      · rintro _ ⟨⟩
        exact hpointless rfl
  | cons first digits =>
      have htaken : (first :: digits ++ head :: tail).takeWhile Char.isDigit = first :: digits := by
        rw [List.takeWhile_append_of_pos hall, List.takeWhile_cons_of_neg (by simp [hplain]),
          List.append_nil]
      have hleft : (first :: digits ++ head :: tail).dropWhile Char.isDigit = head :: tail := by
        rw [List.dropWhile_append_of_pos hall, List.dropWhile_cons_of_neg (by simp [hplain])]
      rw [List.cons_append] at htaken hleft
      simp only [fractionChars, List.cons_append, splitFraction?, htaken, hleft]
      rfl

theorem fractionNanos_of_short {digits : List Char} {nanos : Nat} (hshort : digits.length ≤ 9)
    (hexact : digitsValue digits * nanosPerSecond = nanos * 10 ^ digits.length) :
    fractionNanos digits = nanos := by
  have hwhole : digits.take 9 = digits := List.take_of_length_le hshort
  have hpositive : 0 < 10 ^ digits.length := Nat.pow_pos (by decide)
  have hscale : nanosPerSecond = 10 ^ (9 - digits.length) * 10 ^ digits.length := by
    rw [← Nat.pow_add, Nat.sub_add_cancel hshort]
    rfl
  rw [hscale, ← Nat.mul_assoc] at hexact
  rw [fractionNanos, hwhole]
  exact Nat.eq_of_mul_eq_mul_right hpositive hexact

theorem fractionNanos_of_long {digits : List Char} {nanos : Nat}
    (hall : ∀ c ∈ digits, c.isDigit = true) (hlong : 9 ≤ digits.length)
    (hexact : digitsValue digits * nanosPerSecond = nanos * 10 ^ digits.length) :
    fractionNanos digits = nanos := by
  have hpositive : 0 < 10 ^ (digits.drop 9).length := Nat.pow_pos (by decide)
  have length : (digits.take 9).length = 9 := by rw [List.length_take, Nat.min_eq_left hlong]
  have hrest : digitsValue (digits.drop 9) < 10 ^ (digits.drop 9).length :=
    digitsValue_lt fun c hmember => hall c (List.mem_of_mem_drop hmember)
  have hvalue := digitsValue_append (digits.take 9) (digits.drop 9)
  rw [List.take_append_drop] at hvalue
  have hscale : (10 : Nat) ^ digits.length = 10 ^ (digits.drop 9).length * nanosPerSecond := by
    rw [List.length_drop, show nanosPerSecond = 10 ^ 9 from rfl, ← Nat.pow_add,
      Nat.sub_add_cancel hlong]
  rw [hscale, ← Nat.mul_assoc, hvalue] at hexact
  have hsame := Nat.eq_of_mul_eq_mul_right (by decide) hexact
  rw [fractionNanos, length]
  calc digitsValue (digits.take 9) * Number.tenTo 0
      = digitsValue (digits.take 9) := Nat.mul_one _
    _ = (digitsValue (digits.take 9) * 10 ^ (digits.drop 9).length +
          digitsValue (digits.drop 9)) / 10 ^ (digits.drop 9).length := by
        rw [Nat.add_comm, Nat.add_mul_div_right _ _ hpositive, Nat.div_eq_of_lt hrest, Nat.zero_add]
    _ = nanos := by rw [hsame, Nat.mul_div_cancel _ hpositive]

/-! The offset -/

/-- How the offset of a text is written. -/
inductive Zone where
  | utc (letter : Char)
  | shifted (sign : Char) (hours minutes : Nat)
  deriving DecidableEq

namespace Zone

def Valid : Zone → Prop
  | utc letter => letter = 'Z' ∨ letter = 'z'
  | shifted sign hours minutes =>
      (sign = '+' ∨ sign = '-' ∨ sign = '\u2212') ∧ hours < 24 ∧ minutes < 60

instance : DecidablePred Valid
  | utc _ => inferInstanceAs (Decidable (_ ∨ _))
  | shifted .. => inferInstanceAs (Decidable (_ ∧ _ ∧ _))

def seconds : Zone → Int
  | utc _ => 0
  | shifted sign hours minutes =>
      if sign = '+' then (hours * 60 + minutes) * 60 else -((hours * 60 + minutes) * 60)

def chars : Zone → List Char
  | utc letter => [letter]
  | shifted sign hours minutes => sign :: fixedDigits 2 hours ++ ':' :: fixedDigits 2 minutes

theorem Valid.head {zone : Zone} (hvalid : zone.Valid) :
    ∃ head tail, zone.chars = head :: tail ∧ head.isDigit = false ∧ head ≠ '.' := by
  cases zone with
  | utc letter =>
      rcases hvalid with rfl | rfl
      · exact ⟨'Z', [], rfl, rfl, by decide⟩
      · exact ⟨'z', [], rfl, rfl, by decide⟩
  | shifted sign hours minutes =>
      rcases hvalid with ⟨rfl | rfl | rfl, -, -⟩
      · exact ⟨'+', _, rfl, rfl, by decide⟩
      · exact ⟨'-', _, rfl, rfl, by decide⟩
      · exact ⟨'\u2212', _, rfl, rfl, by decide⟩

end Zone

theorem offsetSeconds?_shifted (sign a b c d : Char) :
    offsetSeconds? [sign, a, b, ':', c, d] = (do
      let hours ← twoDigits? a b
      let minutes ← twoDigits? c d
      guard (hours < 24 ∧ minutes < 60)
      let seconds : Int := (hours * 60 + minutes) * 60
      if sign = '+' then return seconds
      else if sign = '-' ∨ sign = '\u2212' then return -seconds
      else none) := by
  rw [offsetSeconds?]

theorem offsetSeconds?_chars {zone : Zone} (hvalid : zone.Valid) :
    offsetSeconds? zone.chars = some zone.seconds := by
  cases zone with
  | utc letter => rcases hvalid with rfl | rfl <;> rfl
  | shifted sign hours minutes =>
      obtain ⟨hsigned, hearly, hshort⟩ := hvalid
      have hpasses : guard (hours < 24 ∧ minutes < 60) = some () := if_pos ⟨hearly, hshort⟩
      change offsetSeconds? [sign, _, _, ':', _, _] = _
      rw [offsetSeconds?_shifted, twoDigits?_parts (by omega), twoDigits?_parts (by omega)]
      simp only [Option.bind_eq_bind, Option.bind_some, hpasses]
      rcases hsigned with rfl | rfl | rfl <;> rfl

theorem eq_chars_of_offsetSeconds? {chars : List Char} {seconds : Int}
    (hread : offsetSeconds? chars = some seconds) :
    ∃ zone : Zone, zone.Valid ∧ chars = zone.chars ∧ zone.seconds = seconds := by
  unfold offsetSeconds? at hread
  split at hread
  · cases hread
    exact ⟨.utc 'Z', .inl rfl, rfl, rfl⟩
  · cases hread
    exact ⟨.utc 'z', .inr rfl, rfl, rfl⟩
  · rename_i sign a b c d
    simp only [Option.bind_eq_bind, Option.bind_eq_some_iff, Option.guard_eq_some'] at hread
    obtain ⟨hours, hfirst, minutes, hsecond, -, hwithin, hsigned⟩ := hread
    obtain ⟨-, hhigh⟩ := eq_fixedDigits_of_twoDigits? hfirst
    obtain ⟨-, hlow⟩ := eq_fixedDigits_of_twoDigits? hsecond
    have chars : [sign, a, b, ':', c, d] = (Zone.shifted sign hours minutes).chars := by
      rw [Zone.chars, ← hhigh, ← hlow]
      rfl
    refine ⟨.shifted sign hours minutes, ?_, chars, ?_⟩
    · refine ⟨?_, hwithin⟩
      split at hsigned
      · exact .inl ‹_›
      · split at hsigned
        · exact .inr ‹_›
        · cases hsigned
    · rw [Zone.seconds]
      split at hsigned
      · rename_i plus
        rw [if_pos plus]
        exact Option.some.inj hsigned
      · rename_i other
        rw [if_neg other]
        split at hsigned
        · exact Option.some.inj hsigned
        · cases hsigned
  · cases hread

/-! The whole text -/

structure Spelling where
  year : Nat
  month : Nat
  day : Nat
  separator : Char
  hour : Nat
  minute : Nat
  second : Nat
  fraction : List Char
  zone : Zone
  deriving DecidableEq

namespace Spelling

def date (spelling : Spelling) : Date := ⟨spelling.year, spelling.month, spelling.day⟩

structure Valid (spelling : Spelling) : Prop where
  year : spelling.year < 10000
  date : spelling.date.Valid
  separator : spelling.separator = 'T' ∨ spelling.separator = 't' ∨ spelling.separator = ' '
  hour : spelling.hour < 24
  minute : spelling.minute < 60
  /-- A leap second is the second 60. -/
  second : spelling.second ≤ 60
  fraction : ∀ c ∈ spelling.fraction, c.isDigit = true
  zone : spelling.zone.Valid

def chars (spelling : Spelling) : List Char :=
  fixedDigits 4 spelling.year ++ '-' :: fixedDigits 2 spelling.month ++
    '-' :: fixedDigits 2 spelling.day ++ spelling.separator :: fixedDigits 2 spelling.hour ++
    ':' :: fixedDigits 2 spelling.minute ++ ':' :: fixedDigits 2 spelling.second ++
    (fractionChars spelling.fraction ++ spelling.zone.chars)

def text (spelling : Spelling) : String := String.ofList spelling.chars

/-- The instant that a text means, as far as it is read. -/
def instant (spelling : Spelling) : Instant where
  seconds := (spelling.date.toDay - Calendar.epochDay) * 86400 +
    ((spelling.hour * 60 + spelling.minute) * 60 + min spelling.second 59 : Nat) -
      spelling.zone.seconds
  nanos := if spelling.second = 60 then nanosPerSecond + fractionNanos spelling.fraction
    else fractionNanos spelling.fraction

end Spelling

/-- A text tells an instant without loss: by the local time and all digits of the fraction. -/
structure Spelling.Tells (spelling : Spelling) (instant : Instant) : Prop where
  second : spelling.second < 60
  seconds : (spelling.date.toDay - Calendar.epochDay) * 86400 +
    ((spelling.hour * 60 + spelling.minute) * 60 + spelling.second : Nat) =
      instant.seconds + spelling.zone.seconds
  fraction : digitsValue spelling.fraction * nanosPerSecond =
    instant.nanos * 10 ^ spelling.fraction.length

theorem Spelling.Tells.instant_eq {spelling : Spelling} {instant : Instant}
    (htells : spelling.Tells instant) (hvalid : spelling.Valid) : spelling.instant = instant := by
  obtain ⟨hleast, hhere, hexact⟩ := htells
  have hnanos : fractionNanos spelling.fraction = instant.nanos := by
    rcases Nat.le_total spelling.fraction.length 9 with hshort | hlong
    · exact fractionNanos_of_short hshort hexact
    · exact fractionNanos_of_long hvalid.fraction hlong hexact
  obtain ⟨seconds, nanos⟩ := instant
  simp only [Spelling.instant, Nat.min_eq_left (Nat.le_of_lt_succ hleast), Nat.ne_of_lt hleast,
    if_false, hhere, hnanos]
  rw [Int.add_sub_cancel]

theorem instantOf?_eq_some_iff {date : Date} {hour minute second nanos : Nat} {offset : Int}
    {instant : Instant} :
    instantOf? date hour minute second nanos offset = some instant ↔
      (date.Valid ∧ hour < 24 ∧ minute < 60 ∧ second ≤ 60) ∧
        instant = ⟨(date.toDay - Calendar.epochDay) * 86400 +
            ((hour * 60 + minute) * 60 + min second 59 : Nat) - offset,
          if second = 60 then nanosPerSecond + nanos else nanos⟩ := by
  simp only [instantOf?, Option.bind_eq_bind, Option.bind_eq_some_iff, Option.guard_eq_some',
    Option.pure_def, Option.some.injEq, exists_const, eq_comm (a := instant)]
  push_cast
  rfl

theorem readChars_parts (y₁ y₂ y₃ y₄ o₁ o₂ d₁ d₂ separator h₁ h₂ m₁ m₂ s₁ s₂ : Char)
    (rest : List Char) :
    readChars (y₁ :: y₂ :: y₃ :: y₄ :: '-' :: o₁ :: o₂ :: '-' :: d₁ :: d₂ :: separator ::
        h₁ :: h₂ :: ':' :: m₁ :: m₂ :: ':' :: s₁ :: s₂ :: rest) = (do
      guard (separator = 'T' ∨ separator = 't' ∨ separator = ' ')
      let year := (← twoDigits? y₁ y₂) * 100 + (← twoDigits? y₃ y₄)
      let date : Date := ⟨year, ← twoDigits? o₁ o₂, ← twoDigits? d₁ d₂⟩
      let fraction ← splitFraction? rest
      instantOf? date (← twoDigits? h₁ h₂) (← twoDigits? m₁ m₂) (← twoDigits? s₁ s₂) fraction.1
        (← offsetSeconds? fraction.2)) := rfl

theorem readChars_chars {spelling : Spelling} (hvalid : spelling.Valid) :
    readChars spelling.chars = some spelling.instant := by
  obtain ⟨-, hmonth, -, hday⟩ := hvalid.date
  have hlength := Calendar.monthLength_le spelling.year spelling.month
  obtain ⟨head, tail, hstarts, hplain, hpointless⟩ := hvalid.zone.head
  have year := hvalid.year
  have hdigit (value : Nat) : value % 10 < 10 := Nat.mod_lt value (by decide)
  have hcenturies : (spelling.year / 10 / 10 / 10 % 10 * 10 + spelling.year / 10 / 10 % 10) * 100 +
      (spelling.year / 10 % 10 * 10 + spelling.year % 10) = spelling.year := by omega
  have month : spelling.month < 100 := Nat.lt_of_le_of_lt hmonth (by decide)
  have day : spelling.day < 100 := Nat.lt_of_le_of_lt (Nat.le_trans hday hlength) (by decide)
  have hhour : spelling.hour < 100 := Nat.lt_of_lt_of_le hvalid.hour (by decide)
  have hminute : spelling.minute < 100 := Nat.lt_of_lt_of_le hvalid.minute (by decide)
  have hsecond : spelling.second < 100 := Nat.lt_of_le_of_lt hvalid.second (by decide)
  have hpasses : guard (spelling.separator = 'T' ∨ spelling.separator = 't' ∨
      spelling.separator = ' ') = some () := if_pos hvalid.separator
  rw [Spelling.chars]
  simp only [fixedDigits_two, fixedDigits_four, List.cons_append, List.nil_append]
  rw [readChars_parts]
  simp only [twoDigits?_parts month, twoDigits?_parts day, twoDigits?_parts hhour,
    twoDigits?_parts hminute, twoDigits?_parts hsecond, twoDigits?_digitChar, hdigit,
    splitFraction?_append hvalid.fraction hstarts hplain hpointless,
    offsetSeconds?_chars hvalid.zone, Option.bind_eq_bind, Option.bind_some, hcenturies, hpasses]
  exact instantOf?_eq_some_iff.mpr ⟨⟨hvalid.date, hvalid.hour, hvalid.minute, hvalid.second⟩, rfl⟩

theorem eq_chars_of_readChars {chars : List Char} {instant : Instant}
    (hread : readChars chars = some instant) :
    ∃ spelling : Spelling, spelling.Valid ∧ chars = spelling.chars ∧ spelling.instant =
        instant := by
  unfold readChars at hread
  split at hread
  · rename_i y₁ y₂ y₃ y₄ o₁ o₂ d₁ d₂ separator h₁ h₂ m₁ m₂ s₁ s₂ rest
    simp only [Option.bind_eq_bind, Option.bind_eq_some_iff, Option.guard_eq_some'] at hread
    obtain ⟨-, hseparated, century, hcentury, years, hyears, month, hmonth, day, hday,
      ⟨nanos, behind⟩, hfraction, hour, hhour, minute, hminute, second, hsecond, offset, hoffset,
      hfound⟩ := hread
    obtain ⟨year, hyearChars⟩ := eq_fixedDigits_of_pairs hcentury hyears
    obtain ⟨-, hmonthChars⟩ := eq_fixedDigits_of_twoDigits? hmonth
    obtain ⟨-, hdayChars⟩ := eq_fixedDigits_of_twoDigits? hday
    obtain ⟨-, hourChars⟩ := eq_fixedDigits_of_twoDigits? hhour
    obtain ⟨-, hminuteChars⟩ := eq_fixedDigits_of_twoDigits? hminute
    obtain ⟨-, hsecondChars⟩ := eq_fixedDigits_of_twoDigits? hsecond
    obtain ⟨digits, hall, rfl, rfl⟩ := splitFraction?_eq_some hfraction
    obtain ⟨zone, hvalid, rfl, rfl⟩ := eq_chars_of_offsetSeconds? hoffset
    obtain ⟨⟨date, hearly, hshort, hleast⟩, rfl⟩ := instantOf?_eq_some_iff.mp hfound
    refine ⟨⟨century * 100 + years, month, day, separator, hour, minute, second, digits, zone⟩,
      ⟨year, date, hseparated, hearly, hshort, hleast, hall, hvalid⟩, ?_, rfl⟩
    rw [Spelling.chars, ← hyearChars, ← hmonthChars, ← hdayChars, ← hourChars, ← hminuteChars,
      ← hsecondChars]
    rfl
  · cases hread

theorem read?_eq_some_iff {text : String} {instant : Instant} :
    read? text = some instant ↔
      ∃ spelling : Spelling, spelling.Valid ∧ text = spelling.text ∧ spelling.instant =
          instant := by
  constructor
  · intro hread
    obtain ⟨spelling, hvalid, hsame, hmeant⟩ := eq_chars_of_readChars hread
    exact ⟨spelling, hvalid, by rw [Spelling.text, ← hsame, String.ofList_toList], hmeant⟩
  · rintro ⟨spelling, hvalid, rfl, rfl⟩
    rw [read?, Spelling.text, String.toList_ofList]
    exact readChars_chars hvalid

/-- The text means the instant, and loses nothing of it. -/
def Spells (text : String) (instant : Instant) : Prop :=
  ∃ spelling : Spelling, spelling.Valid ∧ text = spelling.text ∧ spelling.Tells instant

theorem Spells.read?_eq {text : String} {instant : Instant} (hspells : Spells text instant) :
    read? text = some instant := by
  obtain ⟨spelling, hvalid, hsame, htells⟩ := hspells
  exact read?_eq_some_iff.mpr ⟨spelling, hvalid, hsame, htells.instant_eq hvalid⟩

/-- The text is none of those that are read. -/
def Unspelled (text : String) : Prop :=
  ¬ ∃ spelling : Spelling, spelling.Valid ∧ text = spelling.text

theorem read?_eq_none_iff {text : String} : read? text = none ↔ Unspelled text := by
  rw [Option.eq_none_iff_forall_ne_some]
  constructor
  · rintro hunread ⟨spelling, hvalid, hsame⟩
    exact hunread spelling.instant (read?_eq_some_iff.mpr ⟨spelling, hvalid, hsame, rfl⟩)
  · intro hunspelled instant hread
    obtain ⟨spelling, hvalid, hsame, -⟩ := read?_eq_some_iff.mp hread
    exact hunspelled ⟨spelling, hvalid, hsame⟩

/-! The standard -/

/-- What the standard asks for beyond that: signs are ASCII, and a leap second ends a month. -/
structure Spelling.Standard (spelling : Spelling) : Prop where
  valid : spelling.Valid
  sign : ∀ hours minutes, spelling.zone ≠ .shifted '\u2212' hours minutes
  leap : spelling.second = 60 → (spelling.instant.seconds + 1) % 86400 = 0 ∧
    (Date.ofDay ((spelling.instant.seconds + 1) / 86400 + Calendar.epochDay)).day = 1

/-- The text is one of RFC 3339. -/
def IsStandard (text : String) : Prop :=
  ∃ spelling : Spelling, spelling.Standard ∧ text = spelling.text

theorem Unspelled.not_isStandard {text : String} (h : Unspelled text) : ¬ IsStandard text := by
  intro ⟨spelling, hstandard, htext⟩
  exact h ⟨spelling, hstandard.valid, htext⟩

theorem Spelling.Standard.minus_not_mem_chars {spelling : Spelling} (h : spelling.Standard) :
    '\u2212' ∉ spelling.chars := by
  have hdigit : ('\u2212').isDigit = false := by decide
  have hfixed (width value : Nat) : '\u2212' ∉ fixedDigits width value := by
    intro hmem
    rw [isDigit_of_mem_fixedDigits hmem] at hdigit
    cases hdigit
  have hseparator : '\u2212' ≠ spelling.separator := by
    intro hsame
    rcases h.valid.separator with hletter | hletter | hletter <;>
      exact absurd (hsame.trans hletter) (by decide)
  have hfraction : '\u2212' ∉ fractionChars spelling.fraction := by
    cases hdigits : spelling.fraction with
    | nil => exact List.not_mem_nil
    | cons first rest =>
        intro hmem
        rcases List.mem_cons.mp hmem with hpoint | hmem
        · exact absurd hpoint (by decide)
        · rw [h.valid.fraction _ (hdigits ▸ hmem)] at hdigit
          cases hdigit
  have hzone : '\u2212' ∉ spelling.zone.chars := by
    have hvalid := h.valid.zone
    have hsign := h.sign
    cases hzone : spelling.zone with
    | utc letter =>
        rw [hzone] at hvalid
        rcases hvalid with rfl | rfl
        · decide
        · decide
    | shifted sign hours minutes =>
        have hplain : '\u2212' ≠ sign := fun hsame => hsign hours minutes (hsame ▸ hzone)
        simp [Zone.chars, hfixed, hplain]
  simp [Spelling.chars, hfixed, hseparator, hfraction, hzone]

theorem not_isStandard_of_minus {text : String} (h : '\u2212' ∈ text.toList) :
    ¬ IsStandard text := by
  intro ⟨spelling, hstandard, htext⟩
  rw [htext, Spelling.text, String.toList_ofList] at h
  exact hstandard.minus_not_mem_chars h

end BucketKeys.Time.Rfc3339
