import BucketKeys.Proofs.Time.Stamp
import BucketKeys.Time.Relaxed

/-!
A reader of documents takes every text that a reader of stamps takes, for the same instant.
-/

namespace BucketKeys.Time.Relaxed

open BucketKeys.Text
open Rfc3339

@[simp] theorem bind_apply {α β : Type} (first : Reader α) (next : α → Reader β)
    (text : List Char) :
    (first >>= next) text = (first text).bind fun part => next part.1 part.2 := rfl

@[simp] theorem pure_apply {α : Type} (value : α) (text : List Char) :
    (pure value : Reader α) text = some (value, text) := rfl

theorem blanks_of_head {c : Char} {rest : List Char} (h : isBlank c = false) :
    blanks (c :: rest) = some ((), c :: rest) := by
  change some ((), (c :: rest).dropWhile isBlank) = _
  rw [List.dropWhile_cons_of_neg (by simp [h])]

@[simp] theorem literal_cons (c : Char) (rest : List Char) :
    literal c (c :: rest) = some ((), rest) := if_pos rfl

theorem head_fixedDigits (width value : Nat) (rest : List Char) :
    ∃ c tail, fixedDigits (width + 1) value ++ rest = c :: tail ∧ c.isDigit = true := by
  cases hdigits : fixedDigits (width + 1) value with
  | nil =>
      have hlength := congrArg List.length hdigits
      simp at hlength
  | cons c tail =>
      exact ⟨c, tail ++ rest, rfl, isDigit_of_mem_fixedDigits (hdigits ▸ List.mem_cons_self)⟩

theorem not_isBlank_of_isDigit {c : Char} (h : c.isDigit = true) : isBlank c = false := by
  simp only [Char.isDigit, Bool.and_eq_true, decide_eq_true_eq, UInt32.le_iff_toNat_le] at h
  change 48 ≤ c.toNat ∧ c.toNat ≤ 57 at h
  simp [isBlank]
  omega

theorem number_fixedDigits (width value : Nat) (rest : List Char) :
    number (width + 1) (fixedDigits (width + 1) value ++ rest) =
      some (value % 10 ^ (width + 1), rest) := by
  have htaken : ((fixedDigits (width + 1) value ++ rest).takeWhile Char.isDigit).take (width + 1) =
      fixedDigits (width + 1) value := by
    rw [List.takeWhile_append_of_pos fun c => isDigit_of_mem_fixedDigits,
      List.take_append_of_le_length (by simp), List.take_of_length_le (by simp)]
  have hsome : (fixedDigits (width + 1) value).isEmpty = false := by
    rw [List.isEmpty_eq_false_iff]
    exact List.ne_nil_of_length_pos (by simp)
  have hleft : (fixedDigits (width + 1) value ++ rest).drop (fixedDigits (width + 1) value).length =
      rest := List.drop_left
  simp only [number, htaken, hsome, hleft, digitsValue_fixedDigits]
  rfl

theorem field_fixedDigits {value : Nat} (h : value < 100) (rest : List Char) :
    field (fixedDigits 2 value ++ rest) = some (value, rest) := by
  obtain ⟨c, tail, hhead, hdigit⟩ := head_fixedDigits 1 value rest
  have hnumber := number_fixedDigits 1 value rest
  rw [hhead] at hnumber ⊢
  rw [field, bind_apply, blanks_of_head (not_isBlank_of_isDigit hdigit), Option.bind_some, hnumber,
    Nat.mod_eq_of_lt (show value < 10 ^ (1 + 1) from h)]

theorem year_fixedDigits {value : Nat} (h : value < 10000) (rest : List Char) :
    year (fixedDigits 4 value ++ rest) = some ((value : Int), rest) := by
  obtain ⟨c, tail, hhead, hdigit⟩ := head_fixedDigits 3 value rest
  have hnumber := number_fixedDigits 3 value rest
  rw [hhead] at hnumber ⊢
  rw [year, bind_apply, blanks_of_head (not_isBlank_of_isDigit hdigit), Option.bind_some,
    signedNumber]
  · change (number 4 (c :: tail)).bind (fun part => some ((part.1 : Int), part.2)) = _
    rw [hnumber, Option.bind_some, Nat.mod_eq_of_lt (show value < 10 ^ (3 + 1) from h)]
  · rintro _ ⟨⟩
    cases hdigit
  · rintro _ ⟨⟩
    cases hdigit

theorem date_chars {year month day : Nat} (hyear : year < 10000)
    (hvalid : (⟨year, month, day⟩ : Date).Valid) (rest : List Char) :
    date (fixedDigits 4 year ++ '-' :: (fixedDigits 2 month ++ '-' ::
      (fixedDigits 2 day ++ rest))) = some (⟨year, month, day⟩, rest) := by
  have hlength : day ≤ Calendar.monthLength year month := hvalid.2.2.2
  have hmonth : month < 100 := Nat.lt_of_le_of_lt hvalid.2.1 (by decide)
  have hday : day < 100 :=
    Nat.lt_of_le_of_lt (hlength.trans (Calendar.monthLength_le year month)) (by decide)
  have hdash : isBlank '-' = false := by decide
  simp only [date, bind_apply, year_fixedDigits hyear, field_fixedDigits hmonth,
    field_fixedDigits hday, blanks_of_head hdash, literal_cons, Option.bind_some]
  rfl

theorem offset_chars {zone : Zone} (h : zone.Valid) :
    offset zone.chars = some (zone.seconds, []) := by
  cases zone with
  | utc letter =>
      rcases h with rfl | rfl
      · rfl
      · rfl
  | shifted sign hours minutes =>
      obtain ⟨hsign, hhours, hminutes⟩ := h
      have hpasses : guard (hours < 24 ∧ minutes < 60) = some () := if_pos ⟨hhours, hminutes⟩
      have hshift : shift (Zone.shifted sign hours minutes).chars =
          some ((Zone.shifted sign hours minutes).seconds, []) := by
        have hcolon : (':' :: fixedDigits 2 minutes).dropWhile (fun c => c == ':' || isBlank c) =
            fixedDigits 2 minutes := by
          obtain ⟨c, tail, hhead, hdigit⟩ := head_fixedDigits 1 minutes []
          have hstays : (c == ':' || isBlank c) = false := by
            rw [not_isBlank_of_isDigit hdigit, Bool.or_false, beq_eq_false_iff_ne]
            rintro rfl
            cases hdigit
          rw [List.append_nil] at hhead
          rw [hhead, List.dropWhile_cons_of_pos (by simp),
            List.dropWhile_cons_of_neg (by simp [hstays])]
        rw [fixedDigits_two] at hcolon
        simp only [Zone.chars, fixedDigits_two, List.cons_append, List.nil_append, shift, hcolon,
          twoDigits?_parts (show hours < 100 by omega),
          twoDigits?_parts (show minutes < 100 by omega), Option.bind_eq_bind, Option.bind_some,
          hpasses]
        rcases hsign with rfl | rfl | rfl
        · rfl
        · rfl
        · rfl
      rw [← hshift]
      rcases hsign with rfl | rfl | rfl
      · rfl
      · rfl
      · rfl

theorem isYear_ofDay {day : Int} (hearly : -1000000 ≤ day) (hlate : day < 4000000) :
    isYear (Date.ofDay day).year = true := by
  have hfirst := Calendar.daysBeforeYear_yearOfDay_le day
  have hlast := Calendar.lt_daysBeforeYear_yearOfDay day
  change isYear (Calendar.yearOfDay day) = true
  unfold Calendar.daysBeforeYear at hfirst hlast
  simp only [isYear, Bool.and_eq_true, decide_eq_true_eq]
  omega

theorem isYear_ofNat {year : Nat} (h : year < 10000) : isYear year = true := by
  simp only [isYear, Bool.and_eq_true, decide_eq_true_eq]
  omega

theorem toDay_bounds {date : Date} (hvalid : date.Valid) (hearly : 0 ≤ date.year)
    (hlate : date.year < 10000) : 0 ≤ date.toDay ∧ date.toDay < 3660000 := by
  have hlength := Calendar.monthLength_le date.year date.month
  obtain ⟨-, hmonth, hfirst, hday⟩ := hvalid
  have hbefore : Calendar.daysBeforeMonth (Calendar.isLeap date.year) date.month ≤ 366 := by
    have hall : ∀ leap, ∀ month ≤ 12, Calendar.daysBeforeMonth leap month ≤ 366 := by decide
    exact hall _ _ hmonth
  unfold Date.toDay Calendar.daysBeforeYear
  omega

theorem isYear_yearOf_instant {spelling : Spelling} (h : spelling.Valid) :
    isYear (yearOf spelling.instant) = true := by
  have hday := toDay_bounds h.date (Int.natCast_nonneg spelling.year) (Int.ofNat_lt.mpr h.year)
  have hzone := h.zone.bounds
  have hhour := h.hour
  have hminute := h.minute
  unfold yearOf Spelling.instant Calendar.epochDay
  apply isYear_ofDay
  · dsimp only
    omega
  · dsimp only
    omega

theorem clock_chars {hour minute second : Nat} (hhour : hour < 100) (hminute : minute < 100)
    (hsecond : second < 100) (rest : List Char) :
    clock (fixedDigits 2 hour ++ ':' :: (fixedDigits 2 minute ++ ':' ::
      (fixedDigits 2 second ++ rest))) = some ((hour, minute, second), rest) := by
  have hcolon : isBlank ':' = false := by decide
  simp only [clock, bind_apply, field_fixedDigits hhour, field_fixedDigits hminute,
    field_fixedDigits hsecond, blanks_of_head hcolon, literal_cons, Option.bind_some]
  rfl

theorem separator_cons {mark : Char} (h : mark = 'T' ∨ mark = 't' ∨ mark = ' ')
    (rest : List Char) : separator (mark :: rest) = some ((), rest) := by
  rcases h with rfl | rfl | rfl
  · rfl
  · rfl
  · rfl

theorem parts_chars {spelling : Spelling} (h : spelling.Valid) :
    parts spelling.chars = some (⟨spelling.date, (spelling.hour, spelling.minute, spelling.second),
      fractionNanos spelling.fraction, spelling.zone.seconds⟩, []) := by
  obtain ⟨head, tail, hstarts, hplain, hpointless⟩ := h.zone.head
  have hdate := date_chars h.year h.date
  have hclock := clock_chars (Nat.lt_of_lt_of_le h.hour (by decide))
    (Nat.lt_of_lt_of_le h.minute (by decide)) (Nat.lt_of_le_of_lt h.second (by decide))
  have hfraction : fraction (fractionChars spelling.fraction ++ spelling.zone.chars) =
      some (fractionNanos spelling.fraction, spelling.zone.chars) :=
    splitFraction?_append h.fraction hstarts hplain hpointless
  simp only [Spelling.chars, List.append_assoc, List.cons_append]
  rw [parts, bind_apply, hdate, Option.bind_some, bind_apply, separator_cons h.separator,
    Option.bind_some, bind_apply, hclock, Option.bind_some, bind_apply, hfraction,
    Option.bind_some, bind_apply, offset_chars h.zone]
  rfl

/-- What is read of a stamp is read of it in a document. -/
theorem read?_text {spelling : Spelling} (h : spelling.Valid) :
    Relaxed.read? spelling.text = some spelling.instant := by
  have hinstant := instantOf?_eq_some_iff.mpr
    ⟨⟨h.date, h.hour, h.minute, h.second⟩, (rfl : spelling.instant = _)⟩
  have hyears : (isYear spelling.date.year && isYear (yearOf spelling.instant)) = true := by
    rw [isYear_yearOf_instant h, Bool.and_true]
    exact isYear_ofNat h.year
  rw [Relaxed.read?, Spelling.text, String.toList_ofList, parts_chars h]
  change Parts.instant? _ = _
  rw [Parts.instant?]
  dsimp only
  rw [hinstant]
  exact if_pos hyears

theorem read?_of_read? {text : String} {instant : Instant}
    (h : Rfc3339.read? text = some instant) : Relaxed.read? text = some instant := by
  obtain ⟨spelling, hvalid, rfl, rfl⟩ := read?_eq_some_iff.mp h
  exact read?_text hvalid

example : Relaxed.read? "2024- 5-1 12:00 : 00.5utc " = some ⟨1714564800, 500000000⟩ := by
  decide +kernel

end BucketKeys.Time.Relaxed
