import BucketKeys.Proofs.Time.Spelling

/-!
How an instant is written: with any offset and any number of fraction digits that lose nothing, of
which a stamp is one way. All of them are read back as the instant.
-/

namespace BucketKeys.Time

namespace Instant

/-- A reading of a clock in the years 1970 to 9999, leap seconds aside. -/
def Regular (instant : Instant) : Prop :=
  0 ≤ instant.seconds ∧ instant.seconds < 253402300800 ∧ instant.nanos < nanosPerSecond

instance (instant : Instant) : Decidable instant.Regular :=
  inferInstanceAs (Decidable (_ ∧ _ ∧ _))

theorem lt_iff_sinceEpoch {first second : Instant} (hone : first.Regular)
    (hother : second.Regular) :
    first < second ↔ first.sinceEpoch < second.sinceEpoch := by
  obtain ⟨-, -, hsmall⟩ := hone
  obtain ⟨-, -, hlittle⟩ := hother
  rw [lt_iff, sinceEpoch, sinceEpoch]
  unfold nanosPerSecond at *
  omega

end Instant

namespace Rfc3339

open BucketKeys.Text

namespace Zone

theorem Valid.bounds {zone : Zone} (hvalid : zone.Valid) :
    -86400 < zone.seconds ∧ zone.seconds < 86400 := by
  cases zone with
  | utc letter =>
      rw [seconds]
      omega
  | shifted sign hours minutes =>
      obtain ⟨-, hearly, hshort⟩ := hvalid
      rw [seconds]
      split <;> omega

end Zone

namespace Spelling

def ofInstant (separator : Char) (places : Nat) (zone : Zone) (instant : Instant) : Spelling :=
  let here := instant.seconds + zone.seconds
  let date := Date.ofDay (here / 86400 + Calendar.epochDay)
  let inDay := (here % 86400).toNat
  { year := date.year.toNat
    month := date.month
    day := date.day
    separator := separator
    hour := inDay / 3600
    minute := inDay / 60 % 60
    second := inDay % 60
    fraction := fixedDigits places (instant.nanos * 10 ^ places / nanosPerSecond)
    zone := zone }

variable {separator : Char} {places : Nat} {zone : Zone} {instant : Instant}

theorem year_ofInstant (hregular : instant.Regular) (hvalid : zone.Valid)
    (hearly : instant.seconds + zone.seconds < 253402300800) :
    let date := Date.ofDay ((instant.seconds + zone.seconds) / 86400 + Calendar.epochDay)
    0 ≤ date.year ∧ date.year ≤ 9999 := by
  obtain ⟨hfirst, -, -⟩ := hregular
  have hbounds := hvalid.bounds
  apply Date.year_ofDay
  · unfold Calendar.epochDay
    omega
  · unfold Calendar.epochDay
    omega

theorem date_ofInstant (hregular : instant.Regular) (hvalid : zone.Valid)
    (hearly : instant.seconds + zone.seconds < 253402300800) :
    (ofInstant separator places zone instant).date =
      Date.ofDay ((instant.seconds + zone.seconds) / 86400 + Calendar.epochDay) := by
  have hyear := (year_ofInstant hregular hvalid hearly).1
  rw [date, ofInstant]
  dsimp only
  rw [Int.toNat_of_nonneg hyear]

theorem valid_ofInstant (hseparated : separator = 'T' ∨ separator = 't' ∨ separator = ' ')
    (hregular : instant.Regular) (hvalid : zone.Valid)
    (hearly : instant.seconds + zone.seconds < 253402300800) :
    (ofInstant separator places zone instant).Valid where
  year := by
    have year := year_ofInstant hregular hvalid hearly
    change Int.toNat _ < 10000
    dsimp only at year
    omega
  date := by
    rw [date_ofInstant hregular hvalid hearly]
    exact Date.valid_ofDay _
  separator := hseparated
  hour := by
    change Int.toNat _ / 3600 < 24
    omega
  minute := Nat.mod_lt _ (by decide)
  second := Nat.le_of_lt (Nat.lt_of_lt_of_le (Nat.mod_lt _ (by decide)) (by decide))
  fraction := fun _ => isDigit_of_mem_fixedDigits
  zone := hvalid

theorem tells_ofInstant (hregular : instant.Regular) (hvalid : zone.Valid)
    (hearly : instant.seconds + zone.seconds < 253402300800)
    (hexact : nanosPerSecond ∣ instant.nanos * 10 ^ places) :
    (ofInstant separator places zone instant).Tells instant where
  second := Nat.mod_lt _ (by decide)
  seconds := by
    rw [date_ofInstant hregular hvalid hearly, Date.toDay_ofDay, Int.add_sub_cancel]
    change _ / 86400 * 86400 + ((((Int.toNat _) / 3600 * 60 + (Int.toNat _) / 60 % 60) * 60 +
      (Int.toNat _) % 60 : Nat) : Int) = instant.seconds + zone.seconds
    generalize instant.seconds + zone.seconds = here
    omega
  fraction := by
    obtain ⟨-, -, hsmall⟩ := hregular
    change digitsValue (fixedDigits places _) * nanosPerSecond =
      instant.nanos * 10 ^ (fixedDigits places _).length
    have hwithin : instant.nanos * 10 ^ places / nanosPerSecond < 10 ^ places := by
      apply Nat.div_lt_of_lt_mul
      exact Nat.mul_lt_mul_of_pos_right hsmall (Nat.pow_pos (by decide))
    rw [digitsValue_fixedDigits, length_fixedDigits, Nat.mod_eq_of_lt hwithin,
      Nat.div_mul_cancel hexact]

end Spelling

theorem fractionChars_of_ne_nil {digits : List Char} (hsome : digits ≠ []) :
    fractionChars digits = '.' :: digits := by
  cases digits with
  | nil => exact absurd rfl hsome
  | cons first rest => rfl

theorem stamp_eq_text {instant : Instant} (hregular : instant.Regular) :
    stamp instant = (Spelling.ofInstant 'T' 9 (.utc 'Z') instant).text := by
  have hutc : (Zone.utc 'Z').Valid := .inl rfl
  have hyear := Spelling.year_ofInstant hregular hutc (by simpa [Zone.seconds] using hregular.2.1)
  obtain ⟨-, -, hsmall⟩ := hregular
  have hwhole : instant.nanos / nanosPerSecond = 0 := Nat.div_eq_of_lt hsmall
  have hrest : instant.nanos % nanosPerSecond = instant.nanos := Nat.mod_eq_of_lt hsmall
  have hdigits : instant.nanos * 10 ^ 9 / nanosPerSecond = instant.nanos :=
    Nat.mul_div_cancel _ (by decide)
  have hsome : fixedDigits 9 instant.nanos ≠ [] :=
    List.ne_nil_of_length_pos (by rw [length_fixedDigits]; decide)
  simp only [Zone.seconds, Int.add_zero] at hyear
  rw [stamp, Spelling.text]
  simp only [writeChars, Spelling.chars, Spelling.ofInstant, Zone.seconds, Int.add_zero, Zone.chars,
    yearChars, hyear, and_self, if_true, hwhole, Nat.add_zero, hrest, hdigits, Fraction.chars,
    fractionChars_of_ne_nil hsome, List.append_assoc, List.cons_append]

theorem spells_ofInstant {instant : Instant} {zone : Zone} {places : Nat} {separator : Char}
    (hseparated : separator = 'T' ∨ separator = 't' ∨ separator = ' ') (hregular : instant.Regular)
    (hvalid : zone.Valid) (hearly : instant.seconds + zone.seconds < 253402300800)
    (hexact : nanosPerSecond ∣ instant.nanos * 10 ^ places) :
    Spells (Spelling.ofInstant separator places zone instant).text instant :=
  ⟨_, Spelling.valid_ofInstant hseparated hregular hvalid hearly, rfl,
    Spelling.tells_ofInstant hregular hvalid hearly hexact⟩

example : read? "2024-02-29 23:30:00.5-01:00" = some ⟨1709253000, 500000000⟩ := by decide +kernel

theorem spells_stamp {instant : Instant} (hregular : instant.Regular) :
    Spells (stamp instant) instant := by
  rw [stamp_eq_text hregular]
  refine spells_ofInstant (.inl rfl) hregular (.inl rfl) ?_ (Nat.dvd_mul_left ..)
  simpa [Zone.seconds] using hregular.2.1

theorem read?_stamp {instant : Instant} (hregular : instant.Regular) :
    read? (stamp instant) = some instant :=
  (spells_stamp hregular).read?_eq

end Rfc3339

end BucketKeys.Time
