import BucketKeys.Time.Calendar

/-!
Days and dates determine each other.
-/

namespace BucketKeys.Time

namespace Calendar

theorem daysBeforeYear_yearOfDay_le (day : Int) : daysBeforeYear (yearOfDay day) ≤ day := by
  unfold yearOfDay
  simp only
  split
  · unfold daysBeforeYear
    omega
  · split
    · assumption
    · omega

theorem lt_daysBeforeYear_yearOfDay (day : Int) : day < daysBeforeYear (yearOfDay day + 1) := by
  unfold yearOfDay
  simp only
  split
  · rename_i early
    simpa using early
  · split
    · unfold daysBeforeYear
      omega
    · omega

def totalDays : List Nat → Nat
  | [] => 0
  | length :: rest => length + totalDays rest

theorem totalDays_monthLengths (leap : Bool) :
    totalDays (monthLengths leap) = if leap then 366 else 365 := by
  cases leap <;> rfl

theorem monthLength_le (year : Int) (month : Nat) : monthLength year month ≤ 31 := by
  have hbounded : ∀ leap, ∀ length ∈ monthLengths leap, length ≤ 31 := by decide
  unfold monthLength
  split
  · omega
  · rw [List.getD_eq_getElem?_getD]
    cases hfound : (monthLengths (isLeap year))[month - 1]? with
    | none => simp
    | some length => simpa using hbounded _ length (List.mem_of_getElem? hfound)

theorem daysBeforeYear_succ (year : Int) :
    daysBeforeYear (year + 1) = daysBeforeYear year + totalDays (monthLengths (isLeap year)) := by
  rw [totalDays_monthLengths]
  unfold daysBeforeYear
  cases hleap : isLeap year with
  | true =>
      simp only [isLeap, Bool.and_eq_true, Bool.or_eq_true, beq_iff_eq, bne_iff_ne] at hleap
      simp only [if_true]
      omega
  | false =>
      simp only [isLeap, Bool.and_eq_false_iff, Bool.or_eq_false_iff, beq_eq_false_iff_ne,
        bne_eq_false_iff_eq] at hleap
      simp
      omega

theorem foldl_add (lengths : List Nat) (start : Nat) :
    lengths.foldl (· + ·) start = start + totalDays lengths := by
  induction lengths generalizing start with
  | nil => rfl
  | cons length rest ih =>
      rw [List.foldl_cons, ih, totalDays, Nat.add_assoc]

theorem monthOfDay_spec (month : Nat) (lengths : List Nat) (day : Nat)
    (hwithin : day < totalDays lengths) :
    ∃ index inMonth, monthOfDay month lengths day = (month + index, inMonth + 1) ∧
      index < lengths.length ∧ inMonth < lengths.getD index 0 ∧
        totalDays (lengths.take index) + inMonth = day := by
  induction lengths generalizing month day with
  | nil => exact absurd hwithin (Nat.not_lt_zero day)
  | cons length rest ih =>
      unfold monthOfDay
      split
      · rename_i first
        exact ⟨0, day, rfl, by simp, by simpa using first, Nat.zero_add day⟩
      · rename_i later
        rw [totalDays] at hwithin
        obtain ⟨index, inMonth, hfound, hbound, hvalid, htotal⟩ :=
          ih (month + 1) (day - length) (by omega)
        refine ⟨index + 1, inMonth, ?_, by simpa using hbound, by simpa using hvalid, ?_⟩
        · rw [hfound, Nat.add_right_comm, Nat.add_assoc]
        · rw [List.take_succ_cons, totalDays]
          omega

end Calendar

namespace Date

open Calendar

theorem ofDay_spec (day : Int) :
    ∃ index inMonth, ofDay day = ⟨yearOfDay day, index + 1, inMonth + 1⟩ ∧ index < 12 ∧
      inMonth < (monthLengths (isLeap (yearOfDay day))).getD index 0 ∧
        daysBeforeYear (yearOfDay day) +
          (totalDays ((monthLengths (isLeap (yearOfDay day))).take index) + inMonth : Nat) =
            day := by
  have hearly := daysBeforeYear_yearOfDay_le day
  have hlate := lt_daysBeforeYear_yearOfDay day
  rw [daysBeforeYear_succ] at hlate
  obtain ⟨index, inMonth, hfound, hbound, hvalid, htotal⟩ := monthOfDay_spec 1
    (monthLengths (isLeap (yearOfDay day))) (day - daysBeforeYear (yearOfDay day)).toNat (by omega)
  refine ⟨index, inMonth, ?_, by simpa [monthLengths] using hbound, hvalid, by omega⟩
  simp only [ofDay, hfound, Nat.add_comm]

theorem toDay_ofDay (day : Int) : (ofDay day).toDay = day := by
  obtain ⟨index, inMonth, hfound, -, -, htotal⟩ := ofDay_spec day
  rw [hfound]
  simp only [toDay, daysBeforeMonth, foldl_add, Nat.add_sub_cancel, Nat.zero_add]
  omega

theorem valid_ofDay (day : Int) : (ofDay day).Valid := by
  obtain ⟨index, inMonth, hfound, hbound, hvalid, -⟩ := ofDay_spec day
  rw [hfound]
  refine ⟨by simp, by simpa using Nat.succ_le_of_lt hbound, by simp, ?_⟩
  simpa [monthLength] using Nat.succ_le_of_lt hvalid

theorem year_ofDay {day : Int} (hearly : 0 ≤ day) (hlate : day < 3652425) :
    0 ≤ (ofDay day).year ∧ (ofDay day).year ≤ 9999 := by
  have hfirst := daysBeforeYear_yearOfDay_le day
  have hlast := lt_daysBeforeYear_yearOfDay day
  have hsame : (ofDay day).year = yearOfDay day := rfl
  rw [hsame]
  unfold daysBeforeYear at hfirst hlast
  omega

end Date

end BucketKeys.Time
