import BucketKeys.Dictionary
import BucketKeys.Time.Instant

/-!
Delays between failing passes of one resource: a Fibonacci sequence up to a largest delay. A pass
that succeeds forgets the sequence of its resource.
-/

namespace BucketKeys

/-- A sequence of delays in seconds. -/
structure Backoff where
  largest : UInt64
  previous : UInt64
  current : UInt64
  deriving DecidableEq, Repr

namespace Backoff

def saturatingAdd (a b : UInt64) : UInt64 :=
  if a.toNat + b.toNat < UInt64.size then a + b else 0xFFFFFFFFFFFFFFFF

theorem toNat_saturatingAdd (a b : UInt64) :
    (saturatingAdd a b).toNat = min (a.toNat + b.toNat) (UInt64.size - 1) := by
  have hsize : UInt64.size = 18446744073709551616 := rfl
  unfold saturatingAdd
  split
  · rename_i h
    rw [UInt64.toNat_add, Nat.mod_eq_of_lt h]
    omega
  · simp only [UInt64.reduceToNat]
    omega

/-- The sequence from the smallest delay, at least one second, to the largest. -/
def between (smallest largest : UInt64) : Backoff :=
  let smallest := max smallest 1
  ⟨max largest smallest, 0, smallest⟩

def delay (backoff : Backoff) : UInt64 :=
  min backoff.current backoff.largest

def advance (backoff : Backoff) : Backoff :=
  ⟨backoff.largest, backoff.current, saturatingAdd backoff.previous backoff.current⟩

def delays : (count : Nat) → Backoff → List UInt64
  | 0, _ => []
  | count + 1, backoff => backoff.delay :: delays count backoff.advance

end Backoff

/-- The failures of one resource since its last success. -/
structure Retry where
  backoff : Backoff
  failures : UInt32
  deriving DecidableEq, Repr

namespace Retry

def smallestSeconds : UInt64 := 1

def largestSeconds : UInt64 := 60

def fresh : Retry := ⟨.between smallestSeconds largestSeconds, 0⟩

def countFailure (retry : Retry) : Retry :=
  { retry with failures := if retry.failures = 0xFFFFFFFF then retry.failures else retry.failures + 1 }

def next (retry : Retry) : UInt64 × Retry :=
  let counted := retry.countFailure
  (counted.backoff.delay, { counted with backoff := counted.backoff.advance })

end Retry

abbrev Retries := Dictionary Retry

namespace Retries

def fail (retries : Retries) (name : String) : UInt64 × Retries :=
  let (delay, retry) := ((retries.get? name).getD .fresh).next
  (delay, retries.insert name retry)

def succeed (retries : Retries) (name : String) : Retries :=
  retries.erase name

end Retries

end BucketKeys
