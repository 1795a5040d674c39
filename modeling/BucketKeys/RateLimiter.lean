import BucketKeys.Number.Binary
import BucketKeys.Time.Instant

/-!
A token bucket that all controllers share. Tokens come back at a steady rate up to the size of
the bucket; a pass that finds no token is told how long to wait, and nothing is kept for it.

The bucket counts in any numbers with the operations below. It runs on doubles, and its bounds
are facts of the rational numbers.
-/

namespace BucketKeys

open Time (Instant Span)

class TokenNumber (α : Type) where
  ofNat : Nat → α
  add : α → α → α
  sub : α → α → α
  mul : α → α → α
  div : α → α → α
  le : α → α → Bool
  toSpan : α → Span

namespace TokenNumber

/-- Whole seconds and nanoseconds are converted apart. -/
def seconds [TokenNumber α] (span : Span) : α :=
  add (ofNat (span.nanos / Time.nanosPerSecond))
    (div (ofNat (span.nanos % Time.nanosPerSecond)) (ofNat Time.nanosPerSecond))

def smaller [TokenNumber α] (a b : α) : α :=
  if le a b then a else b

end TokenNumber

namespace Number

/-- A double that is no number stands for no time. -/
def spanOfSeconds (seconds : Float) : Span :=
  match Binary.ofBits? seconds.toBits with
  | some x => if isNegative seconds.toBits then .zero else ⟨x.scaled Time.nanosPerSecond⟩
  | none => .zero

/-- A half of a nanosecond goes to the even neighbour. -/
def spanOfRat (seconds : Rat) : Span :=
  ⟨roundHalfEven (seconds.num.toNat * Time.nanosPerSecond) seconds.den⟩

end Number

instance : TokenNumber Float where
  ofNat := Float.ofNat
  add := (· + ·)
  sub := (· - ·)
  mul := (· * ·)
  div := (· / ·)
  le a b := a ≤ b
  toSpan := Number.spanOfSeconds

instance : TokenNumber Rat where
  ofNat n := n
  add := (· + ·)
  sub := (· - ·)
  mul := (· * ·)
  div := (· / ·)
  le a b := decide (a ≤ b)
  toSpan := Number.spanOfRat

/-- A bucket of `burst` tokens that come back at `rate` per second. -/
structure RateLimiter (α : Type) where
  rate : α
  burst : α
  tokens : α
  lastRefill : Instant

namespace RateLimiter

variable [TokenNumber α]

def full (rate burst : Nat) (now : Instant) : RateLimiter α :=
  let burst : α := TokenNumber.ofNat (max burst 1)
  ⟨TokenNumber.ofNat (max rate 1), burst, burst, now⟩

def refill (now : Instant) (limiter : RateLimiter α) : RateLimiter α :=
  let gained := TokenNumber.mul (TokenNumber.seconds (limiter.lastRefill.elapsed now)) limiter.rate
  { limiter with
    tokens := TokenNumber.smaller (TokenNumber.add limiter.tokens gained) limiter.burst
    lastRefill := now }

/-- Takes a token and answers no delay, or answers the time until a token is there. -/
def take (now : Instant) (limiter : RateLimiter α) : Span × RateLimiter α :=
  let limiter := limiter.refill now
  let one : α := TokenNumber.ofNat 1
  if TokenNumber.le one limiter.tokens then
    (.zero, { limiter with tokens := TokenNumber.sub limiter.tokens one })
  else
    (TokenNumber.toSpan (TokenNumber.div (TokenNumber.sub one limiter.tokens) limiter.rate), limiter)

end RateLimiter

end BucketKeys
