import BucketKeys.InMemory.Bench

/-!
Sessions at a bench: single operations on the stored resource, one after the other, on a clock
that moves on only when it is told to or has to wait.
-/

namespace BucketKeys.InMemory

structure Session where
  options : PassOptions
  rehearsed : Bool

namespace Session

inductive Operation where
  | pass
  | connect
  | observe
  | create
  | update
  | delete
  | edit (patch : Json)
  deriving Repr

inductive Outcome where
  | turned (turn : Turn)
  | connected
  | observed (observation : Pass.Observation)
  | told (details : ConnectionDetails)
  | deleted
  | edited
  | failed (fault : Fault)
  deriving DecidableEq, Repr

abbrev Room := World Bench

def ofResult (f : α → Outcome) : Except Fault α → Outcome
  | .ok value => f value
  | .error fault => .failed fault

def perform {R : Interface} (act : (call : R.Call) → Act Bench (R.Answer call))
    (work : Work R Credentials α) (resource : Credentials) (room : Room) :
    (Credentials × Except Fault α) × Room :=
  (work resource).play (unhurried act) room

def turn (session : Session) (resource : Credentials) (room : Room) : Turn × Room :=
  if session.rehearsed then
    InMemory.turn (Bench.passAct Bench.rehearsalAct) Rehearsal.connector session.options resource room
  else
    InMemory.turn (Bench.passAct Bench.issuanceAct) Issuance.connector session.options resource room

/-- Connects and at once disconnects; either may fail. -/
def touch {R : Interface} (connector : Pass.Connector R) : Work R Credentials Unit := do
  let client ← connector.connect
  client.disconnect

def connect (session : Session) (resource : Credentials) (room : Room) :
    (Credentials × Except Fault Unit) × Room :=
  if session.rehearsed then
    perform Bench.rehearsalAct (touch Rehearsal.connector) resource room
  else
    perform Bench.issuanceAct (touch Issuance.connector) resource room

/-- Work with the client of the token service, by which the stored resource may change. -/
def issue (work : Issuance.Step α) (f : α → Outcome) (resource : Credentials) (room : Room) :
    Outcome × Room :=
  let ((resource, result), room) := perform Bench.issuanceAct work resource room
  (ofResult f result, { room with state := room.state.store resource })

def consult (work : Issuance.Step α) (f : α → Outcome) (resource : Credentials) (room : Room) :
    Outcome × Room :=
  let ((_, result), room) := perform Bench.issuanceAct work resource room
  (ofResult f result, room)

/-- One operation; an edit that leaves no resource is none. -/
def run? (session : Session) (operation : Operation) (room : Room) : Option (Outcome × Room) := do
  let resource ← room.state.resource?
  match operation with
  | .pass =>
    let (turn, room) := session.turn resource room
    return (.turned turn, room)
  | .connect =>
    let ((_, result), room) := session.connect resource room
    return (ofResult (fun _ => .connected) result, room)
  | .observe => return issue Issuance.client.observe .observed resource room
  | .create => return issue Issuance.client.create .told resource room
  | .update => return consult Issuance.client.update .told resource room
  | .delete => return consult Issuance.client.delete (fun _ => .deleted) resource room
  | .edit patch => return (.edited, { room with state := ← room.state.edit? patch })

end Session

end BucketKeys.InMemory
