import BucketKeys.RateLimiter
import Mathlib.Algebra.Order.Field.Rat
import Mathlib.Tactic.FieldSimp
import Mathlib.Tactic.Positivity
import Mathlib.Tactic.Ring

/-!
The exact arithmetic of a bucket. Between whole nanoseconds tokens come and go in parts, of which a
token has as many as a second has nanoseconds, so that a bucket of rational numbers counts in
natural ones.
-/

namespace BucketKeys

namespace Number

theorem roundHalfEven_mul_right (a b : Nat) {factor : Nat} (hpositive : 0 < factor) :
    roundHalfEven (a * factor) (b * factor) = roundHalfEven a b := by
  have htwice : 2 * (a % b * factor) = 2 * (a % b) * factor := (Nat.mul_assoc ..).symm
  simp only [roundHalfEven, Nat.mul_div_mul_right _ _ hpositive, Nat.mul_mod_mul_right, htwice,
    Nat.mul_lt_mul_right hpositive]

theorem roundHalfEven_congr {a b c d : Nat} (hfirst : 0 < b) (hsecond : 0 < d)
    (hsame : a * d = c * b) : roundHalfEven a b = roundHalfEven c d := by
  rw [← roundHalfEven_mul_right a b hsecond, hsame, Nat.mul_comm b d,
    roundHalfEven_mul_right c d hfirst]

theorem roundHalfEven_eq_zero {a b : Nat} (hpositive : 0 < b) :
    roundHalfEven a b = 0 ↔ 2 * a ≤ b := by
  rcases Nat.lt_or_ge a b with hsmall | hlarge
  · simp only [roundHalfEven, Nat.div_eq_of_lt hsmall, Nat.mod_eq_of_lt hsmall]
    split
    · omega
    · split <;> omega
  · have hquotient : 1 ≤ a / b := (Nat.one_le_div_iff hpositive).mpr hlarge
    simp only [roundHalfEven]
    split
    · omega
    · split <;> omega

end Number

namespace RateLimiter

open Time (Instant Span nanosPerSecond)

theorem nanosPerSecond_pos : 0 < nanosPerSecond := by decide

@[simp] theorem ofNat_rat (n : Nat) : (TokenNumber.ofNat n : Rat) = n := rfl

@[simp] theorem add_rat (a b : Rat) : TokenNumber.add a b = a + b := rfl

@[simp] theorem sub_rat (a b : Rat) : TokenNumber.sub a b = a - b := rfl

@[simp] theorem mul_rat (a b : Rat) : TokenNumber.mul a b = a * b := rfl

@[simp] theorem div_rat (a b : Rat) : TokenNumber.div a b = a / b := rfl

@[simp] theorem le_rat (a b : Rat) : TokenNumber.le a b = decide (a ≤ b) := rfl

@[simp] theorem toSpan_rat (a : Rat) : TokenNumber.toSpan a = Number.spanOfRat a := rfl

@[simp] theorem smaller_rat (a b : Rat) : TokenNumber.smaller a b = min a b := by
  simp [TokenNumber.smaller, min_def]

theorem seconds_rat (span : Span) :
    (TokenNumber.seconds span : Rat) = span.nanos / nanosPerSecond := by
  have hparts := Nat.div_add_mod span.nanos nanosPerSecond
  have hsecond : (nanosPerSecond : Rat) ≠ 0 := by decide
  simp only [TokenNumber.seconds, ofNat_rat, add_rat, div_rat]
  field_simp
  rw [Nat.mul_comm] at hparts
  exact_mod_cast hparts

theorem tokens_refill (limiter : RateLimiter Rat) (now : Instant) :
    (limiter.refill now).tokens =
      min (limiter.tokens + TokenNumber.seconds (limiter.lastRefill.elapsed now) * limiter.rate)
        limiter.burst :=
  smaller_rat _ _

theorem take_eq (limiter : RateLimiter Rat) (now : Instant) :
    limiter.take now =
      let refilled := limiter.refill now
      if 1 ≤ refilled.tokens then (.zero, { refilled with tokens := refilled.tokens - 1 })
      else (Number.spanOfRat ((1 - refilled.tokens) / refilled.rate), refilled) := by
  simp [RateLimiter.take]

theorem spanOfRat_div (missing : Nat) {rate : Nat} (hpositive : 0 < rate) :
    Number.spanOfRat ((missing : Rat) / nanosPerSecond / rate) =
      ⟨Number.roundHalfEven missing rate⟩ := by
  generalize seconds : (missing : Rat) / nanosPerSecond / rate = delay
  have hsteady : (rate : Rat) ≠ 0 := by exact_mod_cast hpositive.ne'
  have hsecond : (nanosPerSecond : Rat) ≠ 0 := by decide
  have hnonnegative : 0 ≤ delay := by
    rw [← seconds]
    positivity
  have hnumerator : ((delay.num.toNat : Nat) : Rat) = delay * delay.den := by
    rw [Rat.mul_den_eq_num, ← Int.cast_natCast,
        Int.toNat_of_nonneg (Rat.num_nonneg.mpr hnonnegative)]
  have hcross : delay.num.toNat * nanosPerSecond * rate = missing * delay.den := by
    have : ((delay.num.toNat * nanosPerSecond * rate : Nat) : Rat) =
        (missing * delay.den : Nat) := by
      push_cast
      rw [hnumerator, ← seconds]
      field_simp
    exact_mod_cast this
  rw [Number.spanOfRat, Number.roundHalfEven_congr delay.den_pos hpositive hcross]

/-- The bucket holds `credit` parts of tokens. -/
structure Holds (rate burst credit : Nat) (limiter : RateLimiter Rat) : Prop where
  rate_eq : limiter.rate = rate
  burst_eq : limiter.burst = burst
  tokens_eq : limiter.tokens = (credit : Rat) / nanosPerSecond
  credit_le : credit ≤ burst * nanosPerSecond

/-- The parts behind a gap of some nanoseconds, each of which brings as many as the rate says. -/
def accrued (rate burst credit gap : Nat) : Nat :=
  min (credit + rate * gap) (burst * nanosPerSecond)

def charged (credit : Nat) : Nat :=
  if nanosPerSecond ≤ credit then credit - nanosPerSecond else credit

def delay (rate credit : Nat) : Span :=
  if nanosPerSecond ≤ credit then .zero
  else ⟨Number.roundHalfEven (nanosPerSecond - credit) rate⟩

variable {rate burst credit : Nat} {limiter : RateLimiter Rat}

theorem holds_full (rate burst : Nat) (now : Instant) :
    Holds (max rate 1) (max burst 1) (max burst 1 * nanosPerSecond) (full rate burst now) where
  rate_eq := rfl
  burst_eq := rfl
  tokens_eq := by
    have hsecond : (nanosPerSecond : Rat) ≠ 0 := by decide
    change ((max burst 1 : Nat) : Rat) = _
    rw [Nat.cast_mul, mul_div_cancel_right₀ _ hsecond]
  credit_le := Nat.le_refl _

theorem Holds.one_le_tokens (hholds : Holds rate burst credit limiter) :
    1 ≤ limiter.tokens ↔ nanosPerSecond ≤ credit := by
  rw [hholds.tokens_eq, le_div_iff₀ (by decide), one_mul, Nat.cast_le]

theorem Holds.refill (hholds : Holds rate burst credit limiter) (now : Instant) :
    Holds rate burst (accrued rate burst credit (limiter.lastRefill.elapsed now).nanos)
      (limiter.refill now) where
  rate_eq := hholds.rate_eq
  burst_eq := hholds.burst_eq
  tokens_eq := by
    have hsecond : (0 : Rat) < nanosPerSecond := by decide
    rw [tokens_refill, seconds_rat, hholds.rate_eq, hholds.burst_eq, hholds.tokens_eq, accrued,
      Nat.cast_min, ← min_div_div_right hsecond.le]
    push_cast
    congr 1
    · ring
    · rw [mul_div_cancel_right₀ _ hsecond.ne']
  credit_le := Nat.min_le_right ..

theorem Holds.charged (hholds : Holds rate burst credit limiter)
    (hcovered : nanosPerSecond ≤ credit) :
    Holds rate burst (credit - nanosPerSecond) { limiter with tokens := limiter.tokens - 1 } := by
  have hsecond : (nanosPerSecond : Rat) ≠ 0 := by decide
  have tokens : limiter.tokens - 1 = ((credit - nanosPerSecond : Nat) : Rat) / nanosPerSecond := by
    rw [hholds.tokens_eq, Nat.cast_sub hcovered, sub_div, div_self hsecond]
  have hbounded := Nat.le_trans (Nat.sub_le credit nanosPerSecond) hholds.credit_le
  exact ⟨hholds.rate_eq, hholds.burst_eq, tokens, hbounded⟩

theorem Holds.take (hholds : Holds rate burst credit limiter) (now : Instant) :
    Holds rate burst
      (RateLimiter.charged (accrued rate burst credit (limiter.lastRefill.elapsed now).nanos))
      (limiter.take now).2 := by
  have refilled := hholds.refill now
  simp only [take_eq, refilled.one_le_tokens, RateLimiter.charged]
  split
  · rename_i covered
    exact refilled.charged covered
  · exact refilled

theorem Holds.answer (hholds : Holds rate burst credit limiter) (hpositive : 0 < rate)
    (now : Instant) :
    (limiter.take now).1 =
      delay rate (accrued rate burst credit (limiter.lastRefill.elapsed now).nanos) := by
  have refilled := hholds.refill now
  have hsecond : (nanosPerSecond : Rat) ≠ 0 := by decide
  simp only [take_eq, refilled.one_le_tokens, delay]
  split
  · rfl
  · rename_i short
    have hmissing : 1 - (limiter.refill now).tokens =
        ((nanosPerSecond - accrued rate burst credit (limiter.lastRefill.elapsed now).nanos : Nat) :
          Rat) / nanosPerSecond := by
      rw [refilled.tokens_eq, Nat.cast_sub (Nat.le_of_not_le short), sub_div, div_self hsecond]
    rw [hmissing, refilled.rate_eq]
    exact spanOfRat_div _ hpositive

theorem delay_eq_zero (hpositive : 0 < rate) :
    delay rate credit = .zero ↔ 2 * nanosPerSecond ≤ 2 * credit + rate := by
  unfold delay
  split
  · simp only [true_iff]
    omega
  · rw [Span.zero, Span.mk.injEq, Number.roundHalfEven_eq_zero hpositive]
    omega

end RateLimiter

end BucketKeys
