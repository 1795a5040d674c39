import BucketKeys.Round

/-!
The controller at work: one round after the other, and after each the time when the next is due.
-/

namespace BucketKeys.Service

inductive Call (R : Interface) where
  | round (call : Round.Call R)
  /-- Tells how a round over a resource ended and when the next is due, and waits for it. -/
  | settled (resource : Credentials) (outcome : Round.Outcome) (next : Action)

/-- What is due next is a resource as it is stored by then. -/
def Answer {R : Interface} : Call R → Type
  | .round call => Round.Answer call
  | .settled .. => Credentials

def interface (R : Interface) : Interface where
  Call := Call R
  Answer := Answer

def settle (retries : Retries) (name : String) (outcome : Round.Outcome) :
    Action × List Event × Retries :=
  let retries := retries.afterRound name outcome
  match outcome with
  | .limited delay => (.requeue delay, [], retries)
  | .finished action => (action, [], retries)
  | .failed fault => retries.retry name fault

def counted (events : List Event) (script : Script I σ α) : Script I σ α :=
  events.foldr .count script

/-- A number of rounds, from the one over the given resource on. -/
def run {R : Interface} (connector : Pass.Connector R) (options : PassOptions) :
    (rounds : Nat) → Retries → Credentials → Script (interface R) Credentials Retries
  | 0, retries, resource => .done resource retries
  | rounds + 1, retries, resource =>
    ((Round.run connector options resource).through (J := interface R) Call.round
      fun _ answer => answer).bind fun _ outcome =>
        let (next, events, retries) := settle retries resource.displayName outcome
        counted events <| .ask resource (Call.settled resource outcome next)
          fun due : Credentials => run connector options rounds retries due

end BucketKeys.Service
