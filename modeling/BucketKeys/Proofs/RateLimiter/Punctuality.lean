import BucketKeys.Proofs.RateLimiter.Admission
import Mathlib.Data.Int.GCD

/-!
Which buckets admit only those that take a token. A visit that comes at most half a nanosecond too
early for a token is told to wait no time at all, and takes nothing; so the question is how close
to a token a bucket may come.
-/

namespace BucketKeys.RateLimiter

open Time (Instant Span nanosPerSecond)

variable {rate burst credit : Nat} {limiter : RateLimiter Rat}

/-- No token is there, but the time until there is one is rounded to nothing. -/
def Early (rate credit : Nat) : Prop :=
  credit < nanosPerSecond ∧ 2 * nanosPerSecond ≤ 2 * credit + rate

/-- The credits that visits leave behind, whenever they come. -/
inductive Attained (rate burst : Nat) : Nat → Prop where
  | full : Attained rate burst (burst * nanosPerSecond)
  | visit {credit : Nat} (attained : Attained rate burst credit) (gap : Nat) :
      Attained rate burst (charged (accrued rate burst credit gap))

/-- The rate divides a second, or else a bucket for one token is never just short of it. -/
def Punctual (rate burst : Nat) : Prop :=
  rate ∣ nanosPerSecond ∨ burst = 1 ∧ rate < 2 * (nanosPerSecond % rate)

instance (rate burst : Nat) : Decidable (Punctual rate burst) :=
  inferInstanceAs (Decidable (_ ∨ _))

def Aligned (rate burst credit : Nat) : Prop :=
  rate ∣ credit ∨ credit = burst * nanosPerSecond

theorem Aligned.accrued (haligned : Aligned rate burst credit) (gap : Nat) :
    Aligned rate burst (accrued rate burst credit gap) := by
  unfold RateLimiter.accrued
  rcases Nat.le_total (credit + rate * gap) (burst * nanosPerSecond) with hshort | hfull
  · rw [Nat.min_eq_left hshort]
    rcases haligned with hshared | rfl
    · exact .inl (Nat.dvd_add hshared (Nat.dvd_mul_right rate gap))
    · exact .inr (Nat.le_antisymm hshort (Nat.le_add_right ..))
  · exact .inr (Nat.min_eq_right hfull)

theorem Aligned.charged (haligned : Aligned rate burst credit) (hpunctual : Punctual rate burst)
    (hbounded : credit ≤ burst * nanosPerSecond) : Aligned rate burst (charged credit) := by
  unfold RateLimiter.charged
  split
  · rename_i hcovered
    rcases hpunctual with hdivides | ⟨rfl, -⟩
    · have hshared : rate ∣ credit := by
        rcases haligned with hshared | rfl
        · exact hshared
        · exact hdivides.mul_left burst
      exact .inl (Nat.dvd_sub hshared hdivides)
    · have hempty : credit - nanosPerSecond = 0 := by omega
      exact .inl (hempty ▸ Nat.dvd_zero rate)
  · exact haligned

theorem Aligned.not_early (haligned : Aligned rate burst credit) (hpunctual : Punctual rate burst)
    (hpositive : 0 < burst) : ¬ Early rate credit := by
  intro hearly
  obtain ⟨hshort, hclose⟩ := hearly
  have hshared : rate ∣ credit := by
    rcases haligned with hshared | rfl
    · exact hshared
    · have hsize := Nat.mul_le_mul_right nanosPerSecond hpositive
      omega
  rcases hpunctual with hdivides | ⟨-, hapart⟩
  · have hshare := Nat.le_of_dvd (by omega) (Nat.dvd_sub hdivides hshared)
    omega
  · obtain ⟨count, rfl⟩ := hshared
    have hremainder : (nanosPerSecond - rate * count) % rate = nanosPerSecond % rate :=
      Nat.sub_mul_mod hshort.le
    have hmissing := Nat.mod_le (nanosPerSecond - rate * count) rate
    omega

theorem Attained.aligned (hattained : Attained rate burst credit)
    (hpunctual : Punctual rate burst) : Aligned rate burst credit := by
  induction hattained with
  | full => exact .inr rfl
  | visit hattained gap ih =>
      exact (ih.accrued gap).charged hpunctual (Nat.min_le_right ..)

theorem attained_of_tokens {count : Nat} (hwithin : count ≤ burst)
    (hattained : Attained rate burst (count * nanosPerSecond)) : Attained rate burst 0 := by
  induction count with
  | zero => simpa using hattained
  | succ count ih =>
      apply ih (Nat.le_of_succ_le hwithin)
      have hsize := Nat.mul_le_mul_right nanosPerSecond hwithin
      have hleft := hattained.visit 0
      rw [Nat.succ_mul] at hleft hsize
      simpa [accrued, charged, hsize] using hleft

theorem attained_zero (rate burst : Nat) : Attained rate burst 0 :=
  attained_of_tokens (Nat.le_refl burst) .full

theorem attained_of_single (huneven : ¬ rate ∣ nanosPerSecond) :
    Attained rate 1 (nanosPerSecond - nanosPerSecond % rate) := by
  have hremainder := Nat.pos_of_ne_zero fun hnone => huneven (Nat.dvd_of_mod_eq_zero hnone)
  have hshares := Nat.mul_div_le nanosPerSecond rate
  have hparts := Nat.div_add_mod nanosPerSecond rate
  have hreached := (attained_zero rate 1).visit (nanosPerSecond / rate)
  have hshort : accrued rate 1 0 (nanosPerSecond / rate) =
      nanosPerSecond - nanosPerSecond % rate := by
    unfold accrued
    omega
  have hkept : charged (nanosPerSecond - nanosPerSecond % rate) =
      nanosPerSecond - nanosPerSecond % rate := if_neg (by omega)
  rwa [hshort, hkept] at hreached

/-- With one visit in each nanosecond and less than a token gained in it, the bucket runs through
the multiples of its rate, whole tokens left out. -/
theorem attained_mod (hslow : rate < nanosPerSecond) (hroomy : 2 ≤ burst) (count : Nat) :
    Attained rate burst (rate * count % nanosPerSecond) := by
  have hsize := Nat.mul_le_mul_right nanosPerSecond hroomy
  induction count with
  | zero => exact attained_zero rate burst
  | succ count ih =>
      have hbelow := Nat.mod_lt (rate * count) nanosPerSecond_pos
      have hreached := ih.visit 1
      have hgained : accrued rate burst (rate * count % nanosPerSecond) 1 =
          rate * count % nanosPerSecond + rate := by
        unfold accrued
        omega
      rw [hgained, charged] at hreached
      rw [Nat.mul_succ, Nat.add_mod, Nat.mod_eq_of_lt hslow]
      split at hreached
      · rename_i covered
        rwa [Nat.mod_eq_sub_mod covered, Nat.mod_eq_of_lt (by omega)]
      · rename_i short
        rwa [Nat.mod_eq_of_lt (Nat.lt_of_not_le short)]

theorem attained_excess (hfast : nanosPerSecond ≤ rate) (hroomy : 2 ≤ burst) {count : Nat}
    (hshort : (rate - nanosPerSecond) * count < nanosPerSecond) :
    Attained rate burst ((rate - nanosPerSecond) * count) := by
  have hsize := Nat.mul_le_mul_right nanosPerSecond hroomy
  induction count with
  | zero => exact attained_zero rate burst
  | succ count ih =>
      rw [Nat.mul_succ] at hshort ⊢
      have hreached := (ih (by omega)).visit 1
      have hgained : accrued rate burst ((rate - nanosPerSecond) * count) 1 =
          (rate - nanosPerSecond) * count + rate := by
        unfold accrued
        omega
      rw [hgained, charged, if_pos (by omega)] at hreached
      rwa [Nat.add_sub_assoc hfast] at hreached

theorem exists_mul_mod_eq_sub_gcd {number modulus : Nat} (hpositive : 0 < number)
    (hsmaller : number < modulus) :
    ∃ count, number * count % modulus = modulus - number.gcd modulus := by
  have hcommon : 0 < number.gcd modulus := Nat.gcd_pos_of_pos_left modulus hpositive
  have hbelow : number.gcd modulus < modulus :=
    (Nat.le_of_dvd hpositive (Nat.gcd_dvd_left ..)).trans_lt hsmaller
  obtain ⟨factor, hwithin, hsame⟩ := Nat.exists_mul_mod_eq_gcd hbelow
  refine ⟨modulus - factor, ?_⟩
  have hwhole : modulus ∣ number * (modulus - factor) % modulus + number.gcd modulus := by
    apply Nat.dvd_of_mod_eq_zero
    rw [← hsame, ← Nat.add_mod, ← Nat.mul_add, Nat.sub_add_cancel hwithin.le, Nat.mul_mod_left]
  have hrest := Nat.mod_lt (number * (modulus - factor)) (Nat.lt_trans hpositive hsmaller)
  have hsum := Nat.eq_of_dvd_of_lt_two_mul (by omega) hwhole (by omega)
  omega

theorem two_mul_gcd_le {number modulus : Nat} (hpositive : 0 < number)
    (huneven : ¬ number ∣ modulus) : 2 * number.gcd modulus ≤ number := by
  have hdivides := Nat.gcd_dvd_left number modulus
  have hmost := Nat.le_of_dvd hpositive hdivides
  have hother : number.gcd modulus ≠ number :=
      fun hsame => huneven (Nat.gcd_eq_left_iff_dvd.mp hsame)
  have hrest := Nat.le_of_dvd (by omega) (Nat.dvd_sub hdivides (Nat.dvd_refl _))
  omega

theorem exists_early_of_not_punctual (hpositive : 0 < rate) (hroom : 0 < burst)
    (hunpunctual : ¬ Punctual rate burst) : ∃ credit, Attained rate burst credit ∧
        Early rate credit := by
  have huneven : ¬ rate ∣ nanosPerSecond := fun hdivides => hunpunctual (.inl hdivides)
  rcases Nat.lt_or_ge 1 burst with hroomy | hsingle
  · rcases Nat.lt_or_ge rate nanosPerSecond with hslow | hfast
    · -- What is missing is the common divisor of the two, at most half of the rate.
      obtain ⟨count, hreached⟩ := exists_mul_mod_eq_sub_gcd hpositive hslow
      have hclose := two_mul_gcd_le hpositive huneven
      have hcommon := Nat.gcd_pos_of_pos_left nanosPerSecond hpositive
      have hattained := attained_mod hslow hroomy count
      rw [hreached] at hattained
      exact ⟨_, hattained, by omega, by omega⟩
    · -- The last multiple of the excess below a token misses less than the excess.
      have hexcess : 0 < rate - nanosPerSecond := by
        have hother : rate ≠ nanosPerSecond := fun hsame => huneven (hsame ▸ Nat.dvd_refl _)
        omega
      have hbelow := Nat.mul_div_le (nanosPerSecond - 1) (rate - nanosPerSecond)
      have habove := Nat.lt_mul_div_succ (nanosPerSecond - 1) hexcess
      have hsecond := nanosPerSecond_pos
      rw [Nat.mul_succ] at habove
      have hshort : (rate - nanosPerSecond) * ((nanosPerSecond - 1) / (rate - nanosPerSecond)) <
          nanosPerSecond := by omega
      exact ⟨_, attained_excess hfast hroomy hshort, hshort, by omega⟩
  · obtain rfl : burst = 1 := Nat.le_antisymm hsingle hroom
    have hclose : 2 * (nanosPerSecond % rate) ≤ rate :=
      Nat.le_of_not_lt fun hapart => hunpunctual (.inr ⟨rfl, hapart⟩)
    have hremainder := Nat.pos_of_ne_zero fun hnone => huneven (Nat.dvd_of_mod_eq_zero hnone)
    have hpart := Nat.mod_le nanosPerSecond rate
    have hbelow := nanosPerSecond_pos
    exact ⟨_, attained_of_single huneven, by omega, by omega⟩

theorem punctual_iff (hpositive : 0 < rate) (hroom : 0 < burst) :
    Punctual rate burst ↔ ∀ credit, Attained rate burst credit → ¬ Early rate credit := by
  constructor
  · intro hpunctual credit hattained
    exact (hattained.aligned hpunctual).not_early hpunctual hroom
  · intro hnever
    by_contra hunpunctual
    obtain ⟨credit, hattained, hearly⟩ := exists_early_of_not_punctual hpositive hroom hunpunctual
    exact hnever credit hattained hearly

theorem Visit.isAdmitted_iff {visit : Visit} (hholds : Holds rate burst credit visit.limiter)
    (hpositive : 0 < rate) :
    visit.IsAdmitted ↔ visit.IsServed ∨
      Early rate
          (accrued rate burst credit (visit.limiter.lastRefill.elapsed visit.now).nanos) := by
  refine (hholds.isAdmitted_iff hpositive visit.now).trans ?_
  rw [IsServed, (hholds.refill visit.now).one_le_tokens, Early]
  omega

theorem Visit.isAdmitted_iff_tokens {visit : Visit}
    (hholds : Holds rate burst credit visit.limiter) (hpositive : 0 < rate) :
    visit.IsAdmitted ↔
      1 ≤ (visit.limiter.refill visit.now).tokens + (rate : Rat) / (2 * nanosPerSecond) := by
  have hsecond : (0 : Rat) < nanosPerSecond := by decide
  refine (hholds.isAdmitted_iff hpositive visit.now).trans ?_
  rw [(hholds.refill visit.now).tokens_eq]
  generalize accrued rate burst credit (visit.limiter.lastRefill.elapsed visit.now).nanos = found
  have hparts : (found : Rat) / nanosPerSecond + (rate : Rat) / (2 * nanosPerSecond) =
      ((2 * found + rate : Nat) : Rat) / (2 * nanosPerSecond : Nat) := by
    push_cast
    field_simp
  rw [hparts, le_div_iff₀ (by exact_mod_cast Nat.mul_pos Nat.two_pos nanosPerSecond_pos), one_mul,
    Nat.cast_le]

theorem exists_attained_of_mem_visits (hholds : Holds rate burst credit limiter)
    (hattained : Attained rate burst credit) {calls : List Instant} {visit : Visit}
    (hmember : visit ∈ visits limiter calls) :
    ∃ found, Attained rate burst found ∧ Holds rate burst found visit.limiter := by
  induction calls generalizing limiter credit with
  | nil => cases hmember
  | cons now later ih =>
      rcases List.mem_cons.mp hmember with rfl | hmember
      · exact ⟨credit, hattained, hholds⟩
      · exact ih (hholds.take now) (hattained.visit _) hmember

theorem isServed_of_punctual (hpunctual : Punctual (max rate 1) (max burst 1)) {start : Instant}
    {calls : List Instant} {visit : Visit} (hmember : visit ∈ visits (full rate burst start) calls)
    (hadmitted : visit.IsAdmitted) : visit.IsServed := by
  obtain ⟨credit, hattained, hholds⟩ :=
    exists_attained_of_mem_visits (holds_full rate burst start) .full hmember
  rcases (Visit.isAdmitted_iff hholds (Nat.le_max_right rate 1)).mp hadmitted with hserved | hearly
  · exact hserved
  · have hnever : ¬ Early (max rate 1) _ :=
      ((hattained.aligned hpunctual).accrued
        (visit.limiter.lastRefill.elapsed visit.now).nanos).not_early hpunctual
          (Nat.le_max_right burst 1)
    exact absurd hearly hnever

theorem bounded_isAdmitted (hpunctual : Punctual (max rate 1) (max burst 1)) :
    Bounded rate burst Visit.IsAdmitted := by
  intro start calls first last hordered hproper
  refine le_trans ?_ (bounded_isServed rate burst start calls first last hordered hproper)
  apply Nat.cast_le.mpr
  apply List.countP_mono_left
  intro visit hmember hwithin
  obtain ⟨hadmitted, hwithin⟩ := of_decide_eq_true hwithin
  exact decide_eq_true ⟨isServed_of_punctual hpunctual hmember hadmitted, hwithin⟩

@[simp] theorem elapsed_later (instant : Instant) (span : Span) :
    instant.elapsed (instant.later span) = span := by
  rw [Instant.elapsed, sinceEpoch_later]
  simp

theorem ascending_append {calls : List Instant} {now : Instant} (hordered : Ascending calls)
    (hlatest : ∀ call ∈ calls, call.sinceEpoch ≤ now.sinceEpoch) (count : Nat) :
    Ascending (calls ++ List.replicate count now) := by
  refine List.pairwise_append.mpr ⟨hordered, ?_, ?_⟩
  · exact List.pairwise_replicate.mpr (.inr (Int.le_refl _))
  · intro call hmember other hrepeated
    rw [List.eq_of_mem_replicate hrepeated]
    exact hlatest call hmember

theorem exists_calls_of_attained (hattained : Attained (max rate 1) (max burst 1) credit)
    (start : Instant) :
    ∃ calls, Ascending (start :: calls) ∧
      Holds (max rate 1) (max burst 1) credit (behind (full rate burst start) calls) ∧
      ∀ call ∈ start :: calls,
        call.sinceEpoch ≤ (behind (full rate burst start) calls).lastRefill.sinceEpoch := by
  induction hattained with
  | full =>
      refine ⟨[], List.pairwise_singleton _ _, holds_full rate burst start, ?_⟩
      intro call hmember
      rw [List.mem_singleton.mp hmember]
      exact Int.le_refl _
  | @visit credit hattained gap ih =>
      obtain ⟨calls, hordered, hholds, hlatest⟩ := ih
      generalize found : behind (full rate burst start) calls = limiter at hholds hlatest
      have hlater : ∀ call ∈ start :: calls,
          call.sinceEpoch ≤ (limiter.lastRefill.later ⟨gap⟩).sinceEpoch := by
        intro call hmember
        have hbefore := hlatest call hmember
        rw [sinceEpoch_later]
        omega
      have htaken := hholds.take (limiter.lastRefill.later ⟨gap⟩)
      rw [elapsed_later] at htaken
      refine ⟨calls ++ [limiter.lastRefill.later ⟨gap⟩], ascending_append hordered hlater 1, ?_, ?_⟩
      · rwa [behind_append, found]
      · intro call hmember
        rw [behind_append, found]
        change _ ≤ (limiter.take _).2.lastRefill.sinceEpoch
        rw [lastRefill_take]
        rcases List.mem_append.mp (List.cons_append .. ▸ hmember) with hmember | hmember
        · exact hlater call hmember
        · rw [List.mem_singleton.mp hmember]

theorem countP_of_early (hholds : Holds rate burst credit limiter) (hpositive : 0 < rate)
    (hearly : Early rate credit) {now : Instant} (hpresent : limiter.lastRefill = now)
    (count : Nat) :
    ((visits limiter (List.replicate count now)).countP fun visit =>
      visit.IsAdmitted ∧ visit.IsWithin (point now) (point now)) = count := by
  have hstill : accrued rate burst credit (now.elapsed now).nanos = credit := by
    have hnone : (now.elapsed now).nanos = 0 := by simp [Instant.elapsed]
    rw [hnone, accrued, Nat.mul_zero, Nat.add_zero, Nat.min_eq_left hholds.credit_le]
  induction count generalizing limiter with
  | zero => rfl
  | succ count ih =>
      subst hpresent
      have hadmitted : Visit.IsAdmitted ⟨limiter.lastRefill, limiter⟩ := by
        apply (Visit.isAdmitted_iff hholds hpositive).mpr
        rw [hstill]
        exact .inr hearly
      have htaken := hholds.take limiter.lastRefill
      rw [hstill, charged, if_neg (Nat.not_le_of_lt hearly.1)] at htaken
      have hothers := ih htaken (lastRefill_take ..)
      rw [List.replicate_succ, visits, List.countP_cons, hothers,
        if_pos (decide_eq_true ⟨hadmitted, le_rfl, le_rfl⟩)]

theorem not_bounded_of_attained (hattained : Attained (max rate 1) (max burst 1) credit)
    (hearly : Early (max rate 1) credit) : ¬ Bounded rate burst Visit.IsAdmitted := by
  intro hbounded
  obtain ⟨calls, hordered, hholds, hlatest⟩ := exists_calls_of_attained hattained ⟨0, 0⟩
  have hcrowd := countP_of_early hholds (Nat.le_max_right rate 1) hearly rfl (max burst 1 + 1)
  generalize (behind (full rate burst ⟨0, 0⟩) calls).lastRefill = now at hlatest hcrowd
  have hbound := hbounded ⟨0, 0⟩ (calls ++ List.replicate (max burst 1 + 1) now) (point now)
    (point now) (ascending_append hordered hlatest _) le_rfl
  rw [visits_append, List.countP_append, hcrowd, sub_self, mul_zero, add_zero,
    Nat.cast_le] at hbound
  omega

structure Admission (rate burst : Nat) : Prop where
  served : Bounded rate burst Visit.IsServed
  /-- Who is admitted without a token comes at most half a nanosecond too early for one. -/
  early : ∀ start calls, ∀ visit ∈ visits (full rate burst start) calls,
    visit.IsAdmitted ↔
      1 ≤ (visit.limiter.refill visit.now).tokens + (max rate 1 : Nat) / (2 * nanosPerSecond)
  admitted : Bounded rate burst Visit.IsAdmitted ↔ Punctual (max rate 1) (max burst 1)

/-- In every window, no more visits take a token than the size of the bucket and its rate allow for;
that no more are admitted holds of those buckets only that are never just short of a token. -/
theorem bounded_iff_punctual (rate burst : Nat) : Admission rate burst where
  served := bounded_isServed rate burst
  early start calls visit member := by
    obtain ⟨credit, -, holds⟩ :=
      exists_attained_of_mem_visits (holds_full rate burst start) .full member
    exact Visit.isAdmitted_iff_tokens holds (Nat.le_max_right rate 1)
  admitted := by
    constructor
    · intro bounded
      apply (punctual_iff (Nat.le_max_right rate 1) (Nat.le_max_right burst 1)).mpr
      exact fun credit attained early => not_bounded_of_attained attained early bounded
    · exact bounded_isAdmitted

theorem bounded_iff_punctual_ten :
    Punctual 10 100 ∧ Bounded 10 100 Visit.IsAdmitted :=
  ⟨by decide, (bounded_iff_punctual 10 100).admitted.mpr (by decide)⟩

/-- At three tokens per second, a visit a third of a nanosecond early for the second token is let
in. -/
theorem thirds_overrun :
    (visits (full 3 1 ⟨0, 0⟩) [⟨0, 0⟩, ⟨0, 333333333⟩]).map Visit.answer = [.zero, .zero] ∧
      ¬ ∀ rate burst, Bounded rate burst Visit.IsAdmitted := by
  refine ⟨by decide +kernel, fun hbounded => ?_⟩
  have hbound := hbounded 3 1 ⟨0, 0⟩ [⟨0, 0⟩, ⟨0, 333333333⟩] 0 (point ⟨0, 333333333⟩)
    (by decide) (by decide +kernel)
  exact absurd hbound (by decide +kernel)

end BucketKeys.RateLimiter
