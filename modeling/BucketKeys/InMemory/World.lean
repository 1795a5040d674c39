import BucketKeys.RateLimiter
import BucketKeys.Round
import BucketKeys.Surroundings

/-!
A world in memory: a clock that only waiting moves, the metrics, the rate limiter, and a state
that answers the questions of a controller.
-/

namespace BucketKeys.InMemory

open Time (Instant Span)

structure World (S : Type) where
  now : Instant
  metrics : Metrics
  limiter : RateLimiter Float
  retries : Retries
  state : S

/-- What becomes of one question: what is noted when it arrives, how long it waits, and what is
done then. -/
structure Act (S α : Type) where
  note : S → S
  wait : S → Span
  effect : S → α × S

namespace Act

def immediate (effect : S → α × S) : Act S α :=
  ⟨id, fun _ => .zero, effect⟩

def pause (span : Span) : Act S Unit :=
  ⟨id, fun _ => span, fun state => ((), state)⟩

def onPart (part : T → S) (replace : S → T → T) (act : Act S α) : Act T α where
  note state := replace (act.note (part state)) state
  wait state := act.wait (part state)
  effect state :=
    let (answer, changed) := act.effect (part state)
    (answer, replace changed state)

end Act

namespace World

def start (now : Instant) (limiter : RateLimiter Float) (state : S) : World S :=
  ⟨now, .zero, limiter, {}, state⟩

def pass (span : Span) (world : World S) : World S :=
  { world with now := world.now.later span }

def count (event : Event) (world : World S) : World S :=
  { world with metrics := world.metrics.record event }

def perform (act : Act S α) (world : World S) : α × World S :=
  let state := act.note world.state
  let (answer, after) := act.effect state
  (answer, { world with now := world.now.later (act.wait state), state := after })

/-- An act that is given up if it still waits at the deadline; then nothing is done. -/
def performUpTo (deadline : Instant) (act : Act S α) (world : World S) : Option α × World S :=
  let state := act.note world.state
  if deadline < world.now.later (act.wait state) then
    (none, { world with now := deadline, state := state })
  else
    let (answer, world) := world.perform act
    (some answer, world)

def admit? (world : World S) : Span × World S :=
  let (delay, limiter) := world.limiter.take world.now
  (delay, { world with limiter := limiter })

end World

/-- The questions of one kind of work, answered without a deadline. -/
def unhurried {I : Interface} (act : (call : I.Call) → Act S (I.Answer call)) :
    Surroundings I (World S) where
  now := World.now
  count := World.count
  answer call world := world.perform (act call)

def rounds {R : Interface} (act : (call : Pass.Call R) → Act S (Pass.Answer call)) :
    Surroundings (Round.interface R) (World S) where
  now := World.now
  count := World.count
  answer call world :=
    match call with
    | .admission => world.admit?
    | .within deadline call => world.performUpTo deadline (act call)
    | .recordFailure resource => world.perform (act (.updateStatus resource))

structure Turn where
  outcome : Round.Outcome
  next : Action
  deriving DecidableEq, Repr

/-- A round over a resource; the delay after a failure grows with each failure in a row. -/
def turn {R : Interface} (act : (call : Pass.Call R) → Act S (Pass.Answer call))
    (connector : Pass.Connector R) (options : PassOptions) (resource : Credentials)
    (world : World S) : Turn × World S :=
  let ((_, outcome), world) := (Round.run connector options resource).play (rounds act) world
  let world := { world with retries := world.retries.afterRound resource.displayName outcome }
  match outcome with
  | .limited delay => (⟨outcome, .requeue delay⟩, world)
  | .finished action => (⟨outcome, action⟩, world)
  | .failed fault =>
    let (action, events, retries) := world.retries.retry resource.displayName fault
    (⟨outcome, action⟩, events.foldl (fun world event => world.count event)
      { world with retries := retries })

end BucketKeys.InMemory
