import BucketKeys.Backoff
import BucketKeys.Pass.Basic

/-!
A round is what the controller does when a resource is due: ask the rate limiter, run a pass under
a deadline, and record a failure in the status of the resource. Rounds and the delays after failed
ones follow each other for any number of resources.
-/

namespace BucketKeys.Round

open Time (Instant Span)

inductive Call (R : Interface) where
  /-- Asks the rate limiter; no delay is the permission to go on. -/
  | admission
  /-- A question of the pass, to be answered before the deadline or not at all. -/
  | within (deadline : Instant) (call : Pass.Call R)
  | recordFailure (resource : Credentials)

def Answer {R : Interface} : Call R → Type
  | .admission => Span
  | .within _ call => Option (Pass.Answer call)
  | .recordFailure _ => Except Fault Unit

def interface (R : Interface) : Interface where
  Call := Call R
  Answer := Answer

inductive Outcome where
  /-- No pass was run; the next may be after the delay. -/
  | limited (delay : Span)
  | finished (action : Action)
  | failed (fault : Fault)
  deriving DecidableEq, Repr

/-- A pass up to a deadline. When the deadline passes during a question, the pass is given up
where it is and fails as late. -/
def upTo {R : Interface} (deadline : Instant) (late : Fault) :
    Script (Pass.interface R) σ (Except Fault α) → Script (interface R) σ (Except Fault α)
  | .done held result => .done held result
  | .ask held call resume =>
    .ask held (Call.within deadline call) fun answer : Option (Pass.Answer call) =>
      match answer with
      | some answer => upTo deadline late (resume answer)
      | none => .done held (.error late)
  | .clock resume => .clock fun now => upTo deadline late (resume now)
  | .count event rest => .count event (upTo deadline late rest)

/-- Records a failure that another pass may mend in the status of the resource. -/
def conclude {R : Interface} (resource : Credentials) :
    Except Fault Action → Script (interface R) Credentials Outcome
  | .ok action => .done resource (.finished action)
  | .error fault =>
    .count (.passFailed fault.label) <|
      if fault.isFatal then .done resource (.failed fault)
      else
        .clock fun now =>
          let resource := resource.setCondition (Condition.reconcileError fault.message now)
          .ask resource (Call.recordFailure resource) fun _ => .done resource (.failed fault)

def timed {R : Interface} (connector : Pass.Connector R) (options : PassOptions)
    (resource : Credentials) : Script (interface R) Credentials Outcome :=
  .clock fun start =>
    (upTo (start.later options.timeout) (.timeout options.timeout)
      (Pass.run connector options resource)).bind fun resource result =>
        .clock fun stop => .count (.passTook (start.elapsed stop)) (conclude resource result)

def run {R : Interface} (connector : Pass.Connector R) (options : PassOptions)
    (resource : Credentials) : Script (interface R) Credentials Outcome :=
  .count .passStarted <|
    .ask resource Call.admission fun delay : Span =>
      if delay = .zero then timed connector options resource
      else .count .rateLimited <| .count (.requeued "rate-limited") <|
        .done resource (.limited delay)

end Round

namespace Retries

/-- Only a pass that succeeded forgets the failures before it. -/
def afterRound (retries : Retries) (name : String) : Round.Outcome → Retries
  | .finished _ => retries.succeed name
  | _ => retries

/-- When to try again after a failure. What another pass cannot mend waits for a change. -/
def retry (retries : Retries) (name : String) (fault : Fault) : Action × List Event × Retries :=
  if fault.isFatal then (.awaitChange, [], retries)
  else
    let (seconds, retries) := retries.fail name
    (.requeue (.ofSeconds seconds.toNat), [.requeued "error-backoff"], retries)

end Retries

end BucketKeys
