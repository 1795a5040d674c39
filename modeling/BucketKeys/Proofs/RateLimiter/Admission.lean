import BucketKeys.Proofs.RateLimiter.Credit
import Mathlib.Tactic.Linarith

/-!
How many visits of a bucket are admitted in a window of time. Those that take a token keep to the
rate and the size of the bucket; some rates let others in without one, as many as come.
-/

namespace BucketKeys.RateLimiter

open Time (Instant Span nanosPerSecond)

def point (instant : Instant) : Rat := (instant.sinceEpoch : Rat) / nanosPerSecond

theorem point_le_point {first second : Instant} :
    point first ≤ point second ↔ first.sinceEpoch ≤ second.sinceEpoch := by
  rw [point, point, div_le_div_iff_of_pos_right (by decide), Int.cast_le]

theorem seconds_elapsed {first second : Instant} (hordered : first.sinceEpoch ≤ second.sinceEpoch) :
    (TokenNumber.seconds (first.elapsed second) : Rat) = point second - point first := by
  have hlength : (((second.sinceEpoch - first.sinceEpoch).toNat : Nat) : Rat) =
      second.sinceEpoch - first.sinceEpoch := by
    rw [← Int.cast_natCast, Int.toNat_of_nonneg (Int.sub_nonneg.mpr hordered), Int.cast_sub]
  rw [seconds_rat, Instant.elapsed, hlength, sub_div, point, point]

theorem sinceEpoch_later (instant : Instant) (span : Span) :
    (instant.later span).sinceEpoch = instant.sinceEpoch + span.nanos := by
  have hsecond : (0 : Int) < nanosPerSecond := by decide
  have hpart := Int.emod_nonneg (instant.sinceEpoch + span.nanos) hsecond.ne'
  have hwhole := Int.mul_ediv_add_emod (instant.sinceEpoch + span.nanos) nanosPerSecond
  simp only [Instant.later, Instant.ofSinceEpoch, Instant.sinceEpoch] at *
  rw [Int.toNat_of_nonneg hpart, Int.mul_comm]
  exact hwhole

def Ascending (calls : List Instant) : Prop :=
  calls.Pairwise fun first second => first.sinceEpoch ≤ second.sinceEpoch

instance (calls : List Instant) : Decidable (Ascending calls) :=
  inferInstanceAs (Decidable (List.Pairwise _ _))

structure Visit where
  now : Instant
  limiter : RateLimiter Rat

namespace Visit

def answer (visit : Visit) : Span := (visit.limiter.take visit.now).1

def IsAdmitted (visit : Visit) : Prop := visit.answer = .zero

/-- There was a token to be taken. -/
def IsServed (visit : Visit) : Prop := 1 ≤ (visit.limiter.refill visit.now).tokens

def IsWithin (first last : Rat) (visit : Visit) : Prop :=
  first ≤ point visit.now ∧ point visit.now ≤ last

instance : DecidablePred IsAdmitted := fun visit =>
  inferInstanceAs (Decidable (visit.answer = .zero))

instance : DecidablePred IsServed := fun visit =>
  inferInstanceAs (Decidable (1 ≤ (visit.limiter.refill visit.now).tokens))

instance (first last : Rat) : DecidablePred (IsWithin first last) := fun visit =>
  inferInstanceAs (Decidable (first ≤ point visit.now ∧ point visit.now ≤ last))

end Visit

def visits (limiter : RateLimiter Rat) : List Instant → List Visit
  | [] => []
  | now :: later => ⟨now, limiter⟩ :: visits (limiter.take now).2 later

def behind (limiter : RateLimiter Rat) : List Instant → RateLimiter Rat
  | [] => limiter
  | now :: later => behind (limiter.take now).2 later

theorem visits_append (limiter : RateLimiter Rat) (earlier later : List Instant) :
    visits limiter (earlier ++ later) =
      visits limiter earlier ++ visits (behind limiter earlier) later := by
  induction earlier generalizing limiter with
  | nil => rfl
  | cons now earlier ih => exact congrArg (_ :: ·) (ih _)

theorem behind_append (limiter : RateLimiter Rat) (earlier later : List Instant) :
    behind limiter (earlier ++ later) = behind (behind limiter earlier) later := by
  induction earlier generalizing limiter with
  | nil => rfl
  | cons now earlier ih => exact ih _

theorem now_mem_of_mem_visits {limiter : RateLimiter Rat} {calls : List Instant} {visit : Visit}
    (hmember : visit ∈ visits limiter calls) : visit.now ∈ calls := by
  induction calls generalizing limiter with
  | nil => cases hmember
  | cons now later ih =>
      rcases List.mem_cons.mp hmember with rfl | hmember
      · exact List.mem_cons_self
      · exact List.mem_cons_of_mem now (ih hmember)

/-- In every closed window, no more visits are of the kind than the size of the bucket and its rate
allow for. -/
def Bounded (rate burst : Nat) (kind : Visit → Prop) [DecidablePred kind] : Prop :=
  ∀ (start : Instant) (calls : List Instant) (first last : Rat), Ascending (start :: calls) →
    first ≤ last →
      (((visits (full rate burst start) calls).countP fun visit =>
        kind visit ∧ visit.IsWithin first last : Nat) : Rat) ≤
          (max burst 1 : Nat) + (max rate 1 : Nat) * (last - first)

variable {rate burst credit : Nat} {limiter : RateLimiter Rat}

@[simp] theorem lastRefill_take (limiter : RateLimiter Rat) (now : Instant) :
    (limiter.take now).2.lastRefill = now := by
  rw [take_eq]
  dsimp only
  split <;> rfl

theorem Holds.isAdmitted_iff (hholds : Holds rate burst credit limiter) (hpositive : 0 < rate)
    (now : Instant) :
    Visit.IsAdmitted ⟨now, limiter⟩ ↔
      2 * nanosPerSecond ≤
        2 * accrued rate burst credit (limiter.lastRefill.elapsed now).nanos + rate := by
  rw [Visit.IsAdmitted, Visit.answer, hholds.answer hpositive, delay_eq_zero hpositive]

theorem tokens_take (limiter : RateLimiter Rat) (now : Instant) :
    (limiter.take now).2.tokens =
      (limiter.refill now).tokens - if Visit.IsServed ⟨now, limiter⟩ then 1 else 0 := by
  by_cases hserved : 1 ≤ (limiter.refill now).tokens <;> simp [take_eq, Visit.IsServed, hserved]

theorem Holds.tokens_nonneg (hholds : Holds rate burst credit limiter) : 0 ≤ limiter.tokens := by
  rw [hholds.tokens_eq]
  positivity

theorem Holds.tokens_refill_le (hholds : Holds rate burst credit limiter) {now : Instant}
    (hordered : limiter.lastRefill.sinceEpoch ≤ now.sinceEpoch) :
    (limiter.refill now).tokens ≤
      limiter.tokens + rate * (point now - point limiter.lastRefill) := by
  rw [tokens_refill, hholds.rate_eq, seconds_elapsed hordered, mul_comm (rate : Rat)]
  exact min_le_left ..

theorem Holds.tokens_refill_le_burst (hholds : Holds rate burst credit limiter) (now : Instant) :
    (limiter.refill now).tokens ≤ burst := by
  rw [tokens_refill, hholds.burst_eq]
  exact min_le_right ..

theorem gain_nonneg (rate : Nat) {first last : Rat} (hproper : first ≤ last) :
    0 ≤ (rate : Rat) * (last - first) :=
  mul_nonneg (Nat.cast_nonneg rate) (sub_nonneg.mpr hproper)

theorem Holds.funds_nonneg (hholds : Holds rate burst credit limiter) {last : Rat}
    (hwithin : point limiter.lastRefill ≤ last) :
    0 ≤ limiter.tokens + rate * (last - point limiter.lastRefill) :=
  add_nonneg hholds.tokens_nonneg (gain_nonneg rate hwithin)

theorem countP_of_late {kind : Visit → Prop} [DecidablePred kind] {calls : List Instant}
    {last : Rat} (hlate : ∀ now ∈ calls, last < point now) :
    (visits limiter calls).countP (fun visit => kind visit ∧ point visit.now ≤ last) = 0 := by
  apply List.countP_eq_zero.mpr
  intro visit hmember hwithin
  have hearly := (of_decide_eq_true hwithin).2
  exact absurd hearly (not_le.mpr (hlate visit.now (now_mem_of_mem_visits hmember)))

theorem late_of_ascending {now : Instant} {later : List Instant} {last : Rat}
    (hordered : Ascending (now :: later)) (hlate : last < point now) :
    ∀ call ∈ now :: later, last < point call := by
  intro call hmember
  rcases List.mem_cons.mp hmember with rfl | hmember
  · exact hlate
  · exact hlate.trans_le (point_le_point.mpr ((List.pairwise_cons.mp hordered).1 call hmember))

theorem countP_within_of_entered {kind : Visit → Prop} [DecidablePred kind] {now : Instant}
    {later : List Instant} {first last : Rat} (hordered : Ascending (now :: later))
    (hentered : first ≤ point now) :
    (visits limiter (now :: later)).countP (fun visit => kind visit ∧ visit.IsWithin first last) =
      (visits limiter (now :: later)).countP fun visit => kind visit ∧ point visit.now ≤ last := by
  apply List.countP_congr
  intro visit hmember
  have hinside : first ≤ point visit.now := by
    rcases List.mem_cons.mp (now_mem_of_mem_visits hmember) with hsame | hmember
    · rwa [hsame]
    · have hbehind := (List.pairwise_cons.mp hordered).1 visit.now hmember
      exact hentered.trans (point_le_point.mpr hbehind)
  simp [Visit.IsWithin, hinside]

/-- A visit adds to the count what it takes from the bucket. -/
theorem countP_served_cons (limiter : RateLimiter Rat) {now : Instant} (later : List Instant)
    {last : Rat} (hreached : point now ≤ last) :
    (((visits limiter (now :: later)).countP fun visit =>
      visit.IsServed ∧ point visit.now ≤ last : Nat) : Rat) =
        ((visits (limiter.take now).2 later).countP fun visit =>
          visit.IsServed ∧ point visit.now ≤ last : Nat) +
            ((limiter.refill now).tokens - (limiter.take now).2.tokens) := by
  simp only [visits, List.countP_cons, hreached, and_true, decide_eq_true_eq, tokens_take]
  push_cast
  ring

/-- The tokens that are there and those that come pay for all that are taken. -/
theorem served_until_le (hholds : Holds rate burst credit limiter) {calls : List Instant}
    (hordered : Ascending (limiter.lastRefill :: calls)) {last : Rat}
    (hwithin : point limiter.lastRefill ≤ last) :
    (((visits limiter calls).countP fun visit =>
      visit.IsServed ∧ point visit.now ≤ last : Nat) : Rat) ≤
        limiter.tokens + rate * (last - point limiter.lastRefill) := by
  induction calls generalizing limiter credit with
  | nil => exact hholds.funds_nonneg hwithin
  | cons now later ih =>
      obtain ⟨first, hrest⟩ := List.pairwise_cons.mp hordered
      by_cases hreached : point now ≤ last
      · have hrefilled := hholds.tokens_refill_le (first now List.mem_cons_self)
        have hothers := ih (hholds.take now) (by rwa [lastRefill_take])
          (by rwa [lastRefill_take])
        rw [lastRefill_take] at hothers
        rw [countP_served_cons limiter later hreached]
        linarith
      · rw [countP_of_late (late_of_ascending hrest (not_le.mp hreached)), Nat.cast_zero]
        exact hholds.funds_nonneg hwithin

theorem served_within_le (hholds : Holds rate burst credit limiter) {calls : List Instant}
    (hordered : Ascending (limiter.lastRefill :: calls)) {first last : Rat}
    (hproper : first ≤ last) :
    (((visits limiter calls).countP fun visit =>
      visit.IsServed ∧ visit.IsWithin first last : Nat) : Rat) ≤ burst + rate * (last - first) := by
  have hallowed : 0 ≤ (burst : Rat) + rate * (last - first) :=
    add_nonneg (Nat.cast_nonneg burst) (gain_nonneg rate hproper)
  induction calls generalizing limiter credit with
  | nil => exact hallowed
  | cons now later ih =>
      obtain ⟨-, hrest⟩ := List.pairwise_cons.mp hordered
      -- The first visit in the window finds at most a full bucket; from there on the books are
      -- kept.
      by_cases hentered : first ≤ point now
      · rw [countP_within_of_entered hrest hentered]
        by_cases hreached : point now ≤ last
        · have hfull := hholds.tokens_refill_le_burst now
          have hwithin : point (limiter.take now).2.lastRefill ≤ last := by rwa [lastRefill_take]
          have hothers := served_until_le (hholds.take now) (by rwa [lastRefill_take]) hwithin
          have hshorter : (rate : Rat) * (last - point now) ≤ rate * (last - first) :=
            mul_le_mul_of_nonneg_left (sub_le_sub_left hentered last) (Nat.cast_nonneg rate)
          rw [lastRefill_take] at hothers
          rw [countP_served_cons limiter later hreached]
          linarith
        · rw [countP_of_late (late_of_ascending hrest (not_le.mp hreached)), Nat.cast_zero]
          exact hallowed
      · have hothers := ih (hholds.take now) (by rwa [lastRefill_take])
        have houtside : ¬ Visit.IsWithin first last ⟨now, limiter⟩ :=
            fun hinside => hentered hinside.1
        simpa [visits, List.countP_cons, houtside] using hothers

theorem bounded_isServed (rate burst : Nat) : Bounded rate burst Visit.IsServed :=
  fun start _ _ _ hordered hproper => served_within_le
      (holds_full rate burst start) hordered hproper

end BucketKeys.RateLimiter
