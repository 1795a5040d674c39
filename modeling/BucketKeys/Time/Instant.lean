/-!
Points in time and spans of time, to the nanosecond.
-/

namespace BucketKeys.Time

def nanosPerSecond : Nat := 1000000000

structure Span where
  nanos : Nat
  deriving DecidableEq, Repr

namespace Span

def zero : Span := ⟨0⟩

def ofSeconds (seconds : Nat) : Span := ⟨seconds * nanosPerSecond⟩

def ofMillis (millis : Nat) : Span := ⟨millis * 1000000⟩

instance : Add Span := ⟨fun a b => ⟨a.nanos + b.nanos⟩⟩

instance : LE Span := ⟨fun a b => a.nanos ≤ b.nanos⟩

instance : LT Span := ⟨fun a b => a.nanos < b.nanos⟩

instance (a b : Span) : Decidable (a ≤ b) := inferInstanceAs (Decidable (a.nanos ≤ b.nanos))

instance (a b : Span) : Decidable (a < b) := inferInstanceAs (Decidable (a.nanos < b.nanos))

end Span

/-- A point in time: seconds since 1970 and a part of a second. Only within a leap second does
the part reach a whole second, and such a point precedes the following full second. -/
structure Instant where
  seconds : Int
  nanos : Nat
  deriving DecidableEq, Repr

namespace Instant

def Before (a b : Instant) : Prop :=
  a.seconds < b.seconds ∨ a.seconds = b.seconds ∧ a.nanos < b.nanos

instance : LT Instant := ⟨Before⟩

instance (a b : Instant) : Decidable (a < b) :=
  inferInstanceAs (Decidable (a.seconds < b.seconds ∨ a.seconds = b.seconds ∧ a.nanos < b.nanos))

theorem lt_iff {a b : Instant} :
    a < b ↔ a.seconds < b.seconds ∨ a.seconds = b.seconds ∧ a.nanos < b.nanos := Iff.rfl

/-- Nanoseconds since 1970; a leap second counts like the second that follows it. -/
def sinceEpoch (instant : Instant) : Int :=
  instant.seconds * nanosPerSecond + instant.nanos

def ofSinceEpoch (nanos : Int) : Instant :=
  ⟨nanos / nanosPerSecond, (nanos % nanosPerSecond).toNat⟩

def later (instant : Instant) (span : Span) : Instant :=
  ofSinceEpoch (instant.sinceEpoch + span.nanos)

/-- The span from one instant to a later one; zero if it is not later. -/
def elapsed (start stop : Instant) : Span :=
  ⟨(stop.sinceEpoch - start.sinceEpoch).toNat⟩

end Instant

end BucketKeys.Time
