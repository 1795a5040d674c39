import BucketKeys.Pass.Client

/-!
A client of the remote side whose every answer was laid out beforehand.
-/

namespace BucketKeys.InMemory

inductive Operation where
  | connect
  | observe
  | create
  | update
  | delete
  | disconnect
  deriving DecidableEq, Repr

namespace Operation

def name : Operation → String
  | connect => "connect"
  | observe => "observe"
  | create => "create"
  | update => "update"
  | delete => "delete"
  | disconnect => "disconnect"

def all : List Operation := [connect, observe, create, update, delete, disconnect]

end Operation

/-- An answer laid out for one operation, of which each operation takes its part. -/
structure Cue where
  fault : Option Fault := none
  resourceExists : Bool := false
  upToDate : Bool := false
  details : ConnectionDetails := {}
  condition : Option (Time.Instant → Condition) := none
  externalName : Option String := none

namespace Rehearsal

def interface : Interface where
  Call := Operation
  Answer _ := Cue

def ask (operation : Operation) : Work interface Credentials Cue := do
  let cue : Cue ← Work.ask (I := interface) operation
  match cue.fault with
  | some fault => Work.fail fault
  | none => return cue

def observe : Work interface Credentials Pass.Observation := do
  let cue ← ask .observe
  match cue.condition with
  | some condition => Pass.setCondition condition
  | none => pure ()
  return ⟨cue.resourceExists, cue.upToDate, cue.details⟩

def create : Work interface Credentials ConnectionDetails := do
  let cue ← ask .create
  match cue.externalName with
  | some name => Work.modify (·.setExternalName name)
  | none => pure ()
  return cue.details

def update : Work interface Credentials ConnectionDetails := do
  let cue ← ask .update
  return cue.details

def only (operation : Operation) : Work interface Credentials Unit := do
  let _ ← ask operation
  return ()

def client : Pass.Client interface where
  observe := observe
  create := create
  update := update
  delete := only .delete
  disconnect := only .disconnect

def connector : Pass.Connector interface where
  connect := do
    only .connect
    return client

end Rehearsal

end BucketKeys.InMemory
