import BucketKeys.Pass.Client
import BucketKeys.Settings.Basic

/-!
One pass over a resource: connect, observe, and create, update or delete the remote resource as
needed. Every creation is announced in the stored resource before it is asked for, and its outcome
recorded after it, so that a creation whose outcome was lost is not repeated.
-/

namespace BucketKeys

inductive Action where
  | requeue (after : Time.Span)
  | awaitChange
  deriving DecidableEq, Repr

namespace Pass

open Bookkeeping

variable {R : Interface}

/-- Writes annotations, pausing longer after each failure, with `more` attempts left behind the
present one. -/
def recordFrom (changes : Dictionary (Option String)) (number : Nat) : (more : Nat) → Step R Unit
  | 0 => updateAnnotations changes
  | more + 1 => do
    match ← (updateAnnotations changes).attempt with
    | .ok () => return ()
    | .error _ =>
      pause (.ofMillis (100 * number))
      recordFrom changes (number + 1) more

/-- Writes annotations in at most the given number of attempts, and in at least one. -/
def record (attempts : Nat) (changes : Dictionary (Option String)) : Step R Unit :=
  recordFrom changes 1 (attempts - 1)

def successAnnotations (succeeded : String) (externalName : Option String) :
    Dictionary (Option String) :=
  let changes := Dictionary.singleton succeededKey (some succeeded)
  match externalName with
  | some name => changes.insert externalNameKey (some name)
  | none => changes

def publishAny (details : ConnectionDetails) : Step R Unit :=
  if details.isEmpty then pure () else publish details

def finish (reason : String) (after : Time.Span) : Step R Action := do
  setCondition Condition.reconcileSuccess
  updateStatus
  Work.count (.requeued reason)
  return .requeue after

def create (client : Client R) (options : PassOptions) : Step R Action := do
  let pending := Time.Rfc3339.stamp (← Work.now)
  updateAnnotations (.singleton pendingKey (some pending))
  Work.modify (·.annotate pendingKey pending)
  setCondition Condition.creating
  match ← (ofRemote client.create).attempt with
  | .error fault =>
    let failed := Time.Rfc3339.stamp (← Work.now)
    Work.modify (·.annotate failedKey failed)
    let _ ← (record options.recordAttempts (.singleton failedKey (some failed))).attempt
    Work.fail fault
  | .ok details =>
    Work.count .resourceCreated
    let succeeded := Time.Rfc3339.stamp (← Work.now)
    Work.modify (·.annotate succeededKey succeeded)
    let resource ← Work.held
    record options.recordAttempts (successAnnotations succeeded resource.externalName?)
    publishAny details
    finish "created" options.shortWait

def release : Step R Action := do
  let resource ← Work.held
  if resource.hasFinalizer then
    updateFinalizers resource.finalizersWithout
    Work.modify (·.setFinalizers resource.finalizersWithout)
  return .awaitChange

def delete (client : Client R) (options : PassOptions) : Step R Action := do
  setCondition Condition.deleting
  ofRemote client.delete
  Work.count .resourceDeleted
  finish "deleting" options.shortWait

def hold : Step R Unit := do
  let resource ← Work.held
  if !resource.hasFinalizer then
    updateFinalizers resource.finalizersWith
    Work.modify (·.setFinalizers resource.finalizersWith)

def maintain (client : Client R) (options : PassOptions) (observation : Observation) :
    Step R Action := do
  publishAny observation.details
  if !observation.upToDate then
    let details ← ofRemote client.update
    publishAny details
  finish "poll" options.pollInterval

def drive (client : Client R) (options : PassOptions) : Step R Action := do
  let observation ← ofRemote client.observe
  let resource ← Work.held
  if resource.isDeleting then
    if observation.resourceExists then delete client options else release
  else
    hold
    if observation.resourceExists then maintain client options observation
    else create client options

def connected (connector : Connector R) (options : PassOptions) : Step R Action := do
  let client ← ofRemote connector.connect
  let outcome ← (drive client options).attempt
  let _ ← (ofRemote client.disconnect).attempt
  Work.ofExcept outcome

/-- One pass. A resource to be orphaned is released without a look at the remote side, and a
creation whose outcome is unknown stops everything but a deletion. -/
def run (connector : Connector R) (options : PassOptions) : Step R Action := do
  let resource ← Work.held
  if resource.name.isEmpty then
    Work.fail (.notAManagedResource Kind.credentials.name "object has no name")
  else if resource.isDeleting && resource.spec.deletionPolicy == .orphan then
    setCondition Condition.deleting
    release
  else if !resource.isDeleting && resource.createIncomplete then
    Work.fail .incompleteCreation
  else
    connected connector options

end Pass

end BucketKeys
