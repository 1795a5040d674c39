import BucketKeys.Dictionary
import BucketKeys.Time.Instant

/-!
What is counted: passes, their failures and requeues, created and deleted tokens, and calls of the
token service with their durations.
-/

namespace BucketKeys

inductive Event where
  | passStarted
  | rateLimited
  | passTook (span : Time.Span)
  | passFailed (reason : String)
  | requeued (reason : String)
  | resourceCreated
  | resourceDeleted
  deriving DecidableEq, Repr

/-- Observations sorted by upper bounds; each bucket counts those that no lower bound holds. -/
structure Histogram where
  bounds : List Float
  buckets : List Nat
  sum : Float
  count : Nat

namespace Histogram

def empty (bounds : List Float) : Histogram :=
  ⟨bounds, bounds.map fun _ => 0, 0, 0⟩

def fill (value : Float) : List Float → List Nat → List Nat
  | bound :: bounds, bucket :: buckets =>
    if value ≤ bound then (bucket + 1) :: buckets else bucket :: fill value bounds buckets
  | _, buckets => buckets

def observe (value : Float) (histogram : Histogram) : Histogram :=
  { histogram with
    buckets := fill value histogram.bounds histogram.buckets
    sum := histogram.sum + value
    count := histogram.count + 1 }

end Histogram

structure Metrics where
  passes : Nat
  rateLimited : Nat
  created : Nat
  deleted : Nat
  failures : Dictionary Nat
  requeues : Dictionary Nat
  passSeconds : Histogram
  apiCalls : Dictionary (Dictionary Nat)
  apiSeconds : Dictionary Histogram

namespace Metrics

def passBounds : List Float := [0.1, 0.5, 1.0, 2.0, 5.0, 10.0, 30.0, 60.0, 180.0]

def apiBounds : List Float := [0.05, 0.1, 0.25, 0.5, 1.0, 2.5, 5.0, 10.0, 30.0]

def zero : Metrics where
  passes := 0
  rateLimited := 0
  created := 0
  deleted := 0
  failures := {}
  requeues := {}
  passSeconds := .empty passBounds
  apiCalls := {}
  apiSeconds := {}

def bump (name : String) (counts : Dictionary Nat) : Dictionary Nat :=
  counts.insert name ((counts.get? name).getD 0 + 1)

def secondsOf (span : Time.Span) : Float :=
  Float.ofNat (span.nanos / Time.nanosPerSecond) +
    Float.ofNat (span.nanos % Time.nanosPerSecond) / Float.ofNat Time.nanosPerSecond

def observePass (seconds : Float) (metrics : Metrics) : Metrics :=
  { metrics with passSeconds := metrics.passSeconds.observe seconds }

def record (event : Event) (metrics : Metrics) : Metrics :=
  match event with
  | .passStarted => { metrics with passes := metrics.passes + 1 }
  | .rateLimited => { metrics with rateLimited := metrics.rateLimited + 1 }
  | .passTook span => metrics.observePass (secondsOf span)
  | .passFailed reason => { metrics with failures := bump reason metrics.failures }
  | .requeued reason => { metrics with requeues := bump reason metrics.requeues }
  | .resourceCreated => { metrics with created := metrics.created + 1 }
  | .resourceDeleted => { metrics with deleted := metrics.deleted + 1 }

def recordCall (operation outcome : String) (seconds : Float) (metrics : Metrics) : Metrics :=
  let outcomes := (metrics.apiCalls.get? operation).getD {}
  let durations := (metrics.apiSeconds.get? operation).getD (.empty apiBounds)
  { metrics with
    apiCalls := metrics.apiCalls.insert operation (bump outcome outcomes)
    apiSeconds := metrics.apiSeconds.insert operation (durations.observe seconds) }

end Metrics

end BucketKeys
