import BucketKeys.Proofs.RateLimiter.Admission

/-!
What a visit that finds no token may rely on. The bucket goes on filling whoever else comes in vain,
so the time that a visit is told stays good, but for the nanosecond in which times are told.
-/

namespace BucketKeys

namespace Number

/-- A number that is rounded moves by at most a half. -/
theorem roundHalfEven_near (a : Nat) {b : Nat} (hpositive : 0 < b) :
    2 * (b * roundHalfEven a b) ≤ 2 * a + b ∧ 2 * a ≤ 2 * (b * roundHalfEven a b) + b := by
  have hparts := Nat.div_add_mod a b
  have hrest := Nat.mod_lt a hpositive
  simp only [roundHalfEven]
  split
  · omega
  · split
    · rw [Nat.mul_succ]
      omega
    · rcases Nat.mod_two_eq_zero_or_one (a / b) with heven | hodd
      · rw [heven, Nat.add_zero]
        omega
      · rw [hodd, Nat.mul_succ]
        omega

end Number

namespace RateLimiter

open Time (Instant Span nanosPerSecond)

variable {rate burst credit : Nat} {limiter : RateLimiter Rat}

theorem elapsed_triangle (first second third : Instant) :
    (first.elapsed third).nanos ≤ (first.elapsed second).nanos + (second.elapsed third).nanos := by
  simp only [Instant.elapsed]
  omega

theorem nanos_elapsed_self (now : Instant) : (now.elapsed now).nanos = 0 := by
  simp [Instant.elapsed]

/-- The bucket holds all that came in since an instant, on top of what was there. -/
def Grown (rate burst credit : Nat) (since : Instant) (limiter : RateLimiter Rat) : Prop :=
  ∃ found, Holds rate burst found limiter ∧
    credit + rate * (since.elapsed limiter.lastRefill).nanos ≤ found

theorem accrued_of_refused (hholds : Holds rate burst credit limiter) (hpositive : 0 < rate)
    {now : Instant} (hrefused : ¬ Visit.IsAdmitted ⟨now, limiter⟩) :
    accrued rate burst credit (limiter.lastRefill.elapsed now).nanos < nanosPerSecond := by
  rw [hholds.isAdmitted_iff hpositive] at hrefused
  omega

theorem Holds.take_of_refused (hholds : Holds rate burst credit limiter) (hpositive : 0 < rate)
    {now : Instant} (hrefused : ¬ Visit.IsAdmitted ⟨now, limiter⟩) :
    Holds rate burst (accrued rate burst credit (limiter.lastRefill.elapsed now).nanos)
      (limiter.take now).2 := by
  have hshort := accrued_of_refused hholds hpositive hrefused
  have htaken := hholds.take now
  rwa [RateLimiter.charged, if_neg (Nat.not_le_of_lt hshort)] at htaken

theorem Grown.of_refused (hholds : Holds rate burst credit limiter) (hpositive : 0 < rate)
    {now : Instant} (hrefused : ¬ Visit.IsAdmitted ⟨now, limiter⟩) :
    Grown rate burst (accrued rate burst credit (limiter.lastRefill.elapsed now).nanos) now
      (limiter.take now).2 := by
  refine ⟨_, hholds.take_of_refused hpositive hrefused, ?_⟩
  rw [lastRefill_take, nanos_elapsed_self, Nat.mul_zero, Nat.add_zero]

/-- Another visit finds all that came in since, unless the bucket holds a token anyway. -/
theorem accrued_of_grown {since : Instant} (hroom : 0 < burst) {found : Nat}
    (hgrown : credit + rate * (since.elapsed limiter.lastRefill).nanos ≤ found) (now : Instant) :
    nanosPerSecond ≤ accrued rate burst found (limiter.lastRefill.elapsed now).nanos ∨
      credit + rate * (since.elapsed now).nanos ≤
        accrued rate burst found (limiter.lastRefill.elapsed now).nanos := by
  have hsize := Nat.mul_le_mul_right nanosPerSecond hroom
  have hlonger := Nat.mul_le_mul_left rate (elapsed_triangle since limiter.lastRefill now)
  rw [Nat.mul_add] at hlonger
  unfold accrued
  omega

theorem Grown.take {since : Instant} (hgrown : Grown rate burst credit since limiter)
    (hpositive : 0 < rate) (hroom : 0 < burst) {now : Instant}
    (hrefused : ¬ Visit.IsAdmitted ⟨now, limiter⟩) :
    Grown rate burst credit since (limiter.take now).2 := by
  obtain ⟨found, hholds, hgained⟩ := hgrown
  have hshort := accrued_of_refused hholds hpositive hrefused
  refine ⟨_, hholds.take_of_refused hpositive hrefused, ?_⟩
  rw [lastRefill_take]
  rcases accrued_of_grown hroom hgained now with hcovered | hmore
  · exact absurd hcovered (Nat.not_le_of_lt hshort)
  · exact hmore

theorem Grown.behind {since : Instant} (hgrown : Grown rate burst credit since limiter)
    (hpositive : 0 < rate) (hroom : 0 < burst) {calls : List Instant}
    (hrefused : ∀ visit ∈ visits limiter calls, ¬ visit.IsAdmitted) :
    Grown rate burst credit since (behind limiter calls) := by
  induction calls generalizing limiter with
  | nil => exact hgrown
  | cons now later ih =>
      obtain ⟨hfirst, hrest⟩ := List.forall_mem_cons.mp hrefused
      exact ih (hgrown.take hpositive hroom hfirst) hrest

theorem Grown.of_mem_visits {since : Instant} (hgrown : Grown rate burst credit since limiter)
    (hpositive : 0 < rate) (hroom : 0 < burst) {calls : List Instant}
    (hrefused : ∀ visit ∈ visits limiter calls, ¬ visit.IsAdmitted) {visit : Visit}
    (hmember : visit ∈ visits limiter calls) : Grown rate burst credit since visit.limiter := by
  induction calls generalizing limiter with
  | nil => cases hmember
  | cons now later ih =>
      obtain ⟨hfirst, hrest⟩ := List.forall_mem_cons.mp hrefused
      rcases List.mem_cons.mp hmember with rfl | hmember
      · exact hgrown
      · exact ih (hgrown.take hpositive hroom hfirst) hrest hmember

/-- When a visit may come back, in nanoseconds since 1970. -/
def Visit.due (visit : Visit) : Int := visit.now.sinceEpoch + visit.answer.nanos

theorem due_of_short (hholds : Holds rate burst credit limiter) (hpositive : 0 < rate)
    {now : Instant}
    (hrefused : ¬ Visit.IsAdmitted ⟨now, limiter⟩) :
    Visit.due ⟨now, limiter⟩ = now.sinceEpoch + Number.roundHalfEven
      (nanosPerSecond - accrued rate burst credit (limiter.lastRefill.elapsed now).nanos)
      rate := by
  have hshort := accrued_of_refused hholds hpositive hrefused
  rw [Visit.due, Visit.answer, hholds.answer hpositive, delay, if_neg (Nat.not_le_of_lt hshort)]

theorem Grown.admits {since : Instant} (hgrown : Grown rate burst credit since limiter)
    (hpositive : 0 < rate) (hroom : 0 < burst) {next : Instant}
    (hwaited : since.sinceEpoch + Number.roundHalfEven (nanosPerSecond - credit) rate ≤
      next.sinceEpoch) : Visit.IsAdmitted ⟨next, limiter⟩ := by
  obtain ⟨found, hholds, hgained⟩ := hgrown
  have hnear := Number.roundHalfEven_near (nanosPerSecond - credit) hpositive
  have hlong : Number.roundHalfEven (nanosPerSecond - credit) rate ≤
      (since.elapsed next).nanos := by
    simp only [Instant.elapsed]
    omega
  have henough := Nat.mul_le_mul_left rate hlong
  rw [hholds.isAdmitted_iff hpositive]
  rcases accrued_of_grown hroom hgained next with hcovered | hmore
  · omega
  · omega

theorem Grown.due_le {since now : Instant} (hgrown : Grown rate burst credit since limiter)
    (hpositive : 0 < rate) (hroom : 0 < burst) (hrefused : ¬ Visit.IsAdmitted ⟨now, limiter⟩) :
    Visit.due ⟨now, limiter⟩ ≤
      since.sinceEpoch + Number.roundHalfEven (nanosPerSecond - credit) rate + 1 := by
  obtain ⟨found, hholds, hgained⟩ := hgrown
  have hshort := accrued_of_refused hholds hpositive hrefused
  rcases accrued_of_grown hroom hgained now with hcovered | hmore
  · exact absurd hcovered (Nat.not_le_of_lt hshort)
  · rw [due_of_short hholds hpositive hrefused]
    generalize accrued rate burst found (limiter.lastRefill.elapsed now).nanos =
        present at hshort hmore
    have htold := (Number.roundHalfEven_near (nanosPerSecond - credit) hpositive).2
    have htells := (Number.roundHalfEven_near (nanosPerSecond - present) hpositive).1
    -- Each of the two times is off by at most half a nanosecond.
    have hscaled : rate * (Number.roundHalfEven (nanosPerSecond - present) rate +
        (since.elapsed now).nanos) ≤
          rate * (Number.roundHalfEven (nanosPerSecond - credit) rate + 1) := by
      rw [Nat.mul_add, Nat.mul_add, Nat.mul_one]
      omega
    have hclose := Nat.le_of_mul_le_mul_left hscaled hpositive
    have hsince_le : now.sinceEpoch ≤ since.sinceEpoch + (since.elapsed now).nanos := by
      simp only [Instant.elapsed]
      omega
    omega

theorem Holds.exists_behind (hholds : Holds rate burst credit limiter) (calls : List Instant) :
    ∃ found, Holds rate burst found (RateLimiter.behind limiter calls) := by
  induction calls generalizing limiter credit with
  | nil => exact ⟨credit, hholds⟩
  | cons now later ih => exact ih (hholds.take now)

structure Postponed (limiter : RateLimiter Rat) (first : Instant) (later : List Instant) :
    Prop where
  admitted : ∀ next : Instant, Visit.due ⟨first, limiter⟩ ≤ next.sinceEpoch →
    Visit.IsAdmitted ⟨next, behind limiter (first :: later)⟩
  steady : ∀ visit ∈ visits limiter (first :: later),
    visit.due ≤ Visit.due ⟨first, limiter⟩ + 1

/-- Who comes back at the time that he was told is admitted, however many came in vain since; and
none of these is told a time more than a nanosecond later. -/
theorem waiting_rewarded (rate burst : Nat) (start : Instant) (earlier : List Instant)
    (first : Instant) (later : List Instant)
    (refused : ∀ visit ∈ visits (behind (full rate burst start) earlier) (first :: later),
      ¬ visit.IsAdmitted) :
    Postponed (behind (full rate burst start) earlier) first later := by
  have hpositive : 0 < max rate 1 := Nat.le_max_right rate 1
  have hroom : 0 < max burst 1 := Nat.le_max_right burst 1
  obtain ⟨credit, hholds⟩ := (holds_full rate burst start).exists_behind earlier
  generalize behind (full rate burst start) earlier = limiter at *
  obtain ⟨hvain, hothers⟩ := List.forall_mem_cons.mp refused
  have hgrown := Grown.of_refused hholds hpositive hvain
  have hdue := due_of_short hholds hpositive hvain
  constructor
  · intro next hwaited
    rw [hdue] at hwaited
    exact (hgrown.behind hpositive hroom hothers).admits hpositive hroom hwaited
  · intro visit hmember
    rcases List.mem_cons.mp hmember with rfl | hmember
    · omega
    · rw [hdue]
      exact (hgrown.of_mem_visits hpositive hroom hothers hmember).due_le hpositive hroom
        (hothers visit hmember)

/-- Of 1024 tokens per second, each takes half a nanosecond more than can be told, and a visit in
the next nanosecond is told a time that is later by one. -/
theorem waiting_rewarded_halves :
    (∀ visit ∈ visits (behind (full 1024 1 ⟨0, 0⟩) [⟨0, 0⟩]) [⟨0, 0⟩, ⟨0, 1⟩], ¬ visit.IsAdmitted) ∧
      (visits (behind (full 1024 1 ⟨0, 0⟩) [⟨0, 0⟩]) [⟨0, 0⟩, ⟨0, 1⟩]).map Visit.due =
        [976562, 976563] ∧
      Postponed (behind (full 1024 1 ⟨0, 0⟩) [⟨0, 0⟩]) ⟨0, 0⟩ [⟨0, 1⟩] :=
  have hrefused : ∀ visit ∈ visits (behind (full 1024 1 ⟨0, 0⟩) [⟨0, 0⟩]) [⟨0, 0⟩, ⟨0, 1⟩],
      ¬ visit.IsAdmitted := by decide +kernel
  ⟨hrefused, by decide +kernel, waiting_rewarded 1024 1 ⟨0, 0⟩ [⟨0, 0⟩] ⟨0, 0⟩ [⟨0, 1⟩] hrefused⟩

end RateLimiter

end BucketKeys
