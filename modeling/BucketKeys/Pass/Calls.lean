import BucketKeys.Issuance.ConnectionDetails
import BucketKeys.Resource.Bookkeeping
import BucketKeys.Script

/-!
What a pass asks of its surroundings: writes to the stored resource, the publication of connection
details, pauses, and whatever its client of the remote side asks.
-/

namespace BucketKeys.Pass

inductive Call (R : Interface) where
  | remote (call : R.Call)
  /-- Sets the annotations that have a value and removes the others. -/
  | updateAnnotations (resource : Credentials) (changes : Dictionary (Option String))
  /-- Replaces the whole list. -/
  | updateFinalizers (resource : Credentials) (finalizers : List String)
  | updateStatus (resource : Credentials)
  | publish (resource : Credentials) (details : ConnectionDetails)
  | pause (span : Time.Span)

def Answer {R : Interface} : Call R → Type
  | .remote call => R.Answer call
  | .updateAnnotations .. => Except Fault Unit
  | .updateFinalizers .. => Except Fault Unit
  | .updateStatus _ => Except Fault Unit
  | .publish .. => Except Fault Unit
  | .pause _ => Unit

def interface (R : Interface) : Interface where
  Call := Call R
  Answer := Answer

/-- Work of a pass on its own copy of the resource. -/
abbrev Step (R : Interface) := Work (interface R) Credentials

def ofRemote {R : Interface} (work : Work R Credentials α) : Step R α :=
  work.through Call.remote fun _ answer => answer

def ask {R : Interface} (call : Call R) : Step R (Answer call) :=
  Work.ask (I := interface R) call

def updateAnnotations {R : Interface} (changes : Dictionary (Option String)) : Step R Unit := do
  let resource ← Work.held
  let answer : Except Fault Unit ← ask (.updateAnnotations resource changes)
  Work.ofExcept answer

def updateFinalizers {R : Interface} (finalizers : List String) : Step R Unit := do
  let resource ← Work.held
  let answer : Except Fault Unit ← ask (.updateFinalizers resource finalizers)
  Work.ofExcept answer

def updateStatus {R : Interface} : Step R Unit := do
  let resource ← Work.held
  let answer : Except Fault Unit ← ask (.updateStatus resource)
  Work.ofExcept answer

def publish {R : Interface} (details : ConnectionDetails) : Step R Unit := do
  let resource ← Work.held
  let answer : Except Fault Unit ← ask (.publish resource details)
  Work.ofExcept answer

def pause {R : Interface} (span : Time.Span) : Step R Unit := do
  let answer : Unit ← ask (.pause span)
  return answer

def setCondition {I : Interface} (condition : Time.Instant → Condition) : Work I Credentials Unit := do
  let now ← Work.now
  Work.modify (·.setCondition (condition now))

end BucketKeys.Pass
