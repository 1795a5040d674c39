import BucketKeys.Fault
import BucketKeys.Metrics.Basic

/-!
Computations that put questions to their surroundings. A script pauses at each question with the
value it holds so far, so that a script that is given up leaves that value behind. Reading the
clock and counting take no time, and a script is never given up there.
-/

namespace BucketKeys

/-- Questions, and the type of the answer to each. -/
structure Interface where
  Call : Type
  Answer : Call → Type

inductive Script (I : Interface) (σ α : Type) : Type where
  | done (held : σ) (value : α)
  | ask (held : σ) (call : I.Call) (resume : I.Answer call → Script I σ α)
  | clock (resume : Time.Instant → Script I σ α)
  | count (event : Event) (next : Script I σ α)

namespace Script

def bind (script : Script I σ α) (next : σ → α → Script I σ β) : Script I σ β :=
  match script with
  | done held value => next held value
  | ask held call resume => .ask held call fun answer => (resume answer).bind next
  | clock resume => .clock fun now => (resume now).bind next
  | count event rest => .count event (rest.bind next)

@[simp] theorem bind_done (held : σ) (value : α) (next : σ → α → Script I σ β) :
    (done held value : Script I σ α).bind next = next held value := rfl

theorem bind_assoc (script : Script I σ α) (f : σ → α → Script I σ β) (g : σ → β → Script I σ γ) :
    (script.bind f).bind g = script.bind fun held value => (f held value).bind g := by
  induction script with
  | done held value => rfl
  | ask held call resume ih => simp only [bind, ih]
  | clock resume ih => simp only [bind, ih]
  | count event rest ih => simp only [bind, ih]

def through {I J : Interface} (carry : I.Call → J.Call)
    (back : (call : I.Call) → J.Answer (carry call) → I.Answer call) :
    Script I σ α → Script J σ α
  | done held value => .done held value
  | ask held call resume =>
    .ask held (carry call) fun answer => (resume (back call answer)).through carry back
  | clock resume => .clock fun now => (resume now).through carry back
  | count event rest => .count event (rest.through carry back)

end Script

/-- Work on a held value that may fail; what it holds outlives the failure. -/
def Work (I : Interface) (σ α : Type) : Type :=
  σ → Script I σ (Except Fault α)

namespace Work

def andThen (work : Work I σ α) (next : α → Work I σ β) : Work I σ β := fun held =>
  (work held).bind fun held result =>
    match result with
    | .ok value => next value held
    | .error fault => .done held (.error fault)

instance : Monad (Work I σ) where
  pure value := fun held => .done held (.ok value)
  bind := andThen

def fail (fault : Fault) : Work I σ α := fun held => .done held (.error fault)

def held : Work I σ σ := fun held => .done held (.ok held)

def modify (f : σ → σ) : Work I σ Unit := fun held => .done (f held) (.ok ())

def now : Work I σ Time.Instant := fun held => .clock fun now => .done held (.ok now)

def count (event : Event) : Work I σ Unit := fun held => .count event (.done held (.ok ()))

def ask (call : I.Call) : Work I σ (I.Answer call) := fun held =>
  .ask held call fun answer => .done held (.ok answer)

def ofExcept : Except Fault α → Work I σ α
  | .ok value => pure value
  | .error fault => fail fault

/-- The result of the work, be it a failure. -/
def attempt (work : Work I σ α) : Work I σ (Except Fault α) := fun held =>
  (work held).bind fun held result => .done held (.ok result)

def through {I J : Interface} (carry : I.Call → J.Call)
    (back : (call : I.Call) → J.Answer (carry call) → I.Answer call) (work : Work I σ α) :
    Work J σ α := fun held =>
  (work held).through carry back

end Work

end BucketKeys
