import BucketKeys.Fault
import BucketKeys.Json.Decode
import BucketKeys.Url.Target

/-!
Exchanges with the API server of the cluster: a request, and what its reply means.
-/

namespace BucketKeys.Cluster

inductive Verb where
  | get
  /-- Changes the stored object by a merge patch. -/
  | merge (patch : Json)
  | apply (object : Json)
  deriving Repr

namespace Verb

/-- Under this name the controller owns the fields that it writes. -/
def fieldManager : String := "provider-cloudflare"

def parameters : Verb → List (String × String)
  | get => []
  | merge _ => [("fieldManager", fieldManager)]
  | apply _ => [("force", "true"), ("fieldManager", fieldManager)]

end Verb

structure Request where
  target : Url.Target
  verb : Verb
  deriving Repr

structure Refusal where
  code : Nat
  message : String
  reason : String
  deriving DecidableEq, Repr

abbrev Reply := Except Refusal Json

namespace Request

def path (request : Request) : String :=
  request.target.path

def method (request : Request) : String :=
  match request.verb with
  | .get => "GET"
  | .merge _ => "PATCH"
  | .apply _ => "PATCH"

def contentType (request : Request) : String :=
  match request.verb with
  | .get => ""
  | .merge _ => "application/merge-patch+json"
  | .apply _ => "application/apply-patch+yaml"

def query (request : Request) : Dictionary String :=
  request.target.parameters

def body? (request : Request) : Option Json :=
  match request.verb with
  | .get => none
  | .merge patch => some patch
  | .apply object => some object

end Request

/-- Why an exchange gave no object. -/
inductive Trouble where
  | emptyName
  | badTarget (fault : Url.Target.Fault)
  | refused (refusal : Refusal)
  | unreadable
  deriving DecidableEq, Repr

namespace Trouble

def message : Trouble → String
  | emptyName =>
    "Failed to build request: failed to validate request: A non-empty name is required"
  | badTarget fault => "Failed to build request: failed to build request: " ++ fault.message
  | refused refusal => "ApiError: " ++ refusal.message ++ ": " ++ refusal.reason
  | unreadable => "Error deserializing response: not the expected object"

def isMissing : Trouble → Bool
  | refused refusal => refusal.code == 404
  | _ => false

end Trouble

inductive Exchange (α : Type) where
  /-- Nothing has to be asked. -/
  | settled (result : Except Fault α)
  | asking (request : Request) (finish : Reply → Except Fault α)

/-- A target as it is written: a name is put into it as it is, so marks in a name count. -/
def targetText (collection name part : String) (parameters : List (String × String)) : String :=
  parameters.foldl (fun text parameter => text ++ "&" ++ parameter.1 ++ "=" ++ parameter.2)
    (collection ++ "/" ++ name ++ part ++ "?")

namespace Exchange

def reading (read : Json.Decoder α) : Reply → Except Trouble α
  | .error refusal => .error (.refused refusal)
  | .ok object =>
    match read object with
    | some value => .ok value
    | none => .error .unreadable

/-- Asks for a named member of a collection, or for a part of it. -/
def about (collection name part : String) (verb : Verb) (read : Json.Decoder α)
    (conclude : Except Trouble α → Except Fault β) : Exchange β :=
  if name.isEmpty then .settled (conclude (.error .emptyName))
  else
    match Url.Target.read (targetText collection name part verb.parameters) with
    | .error fault => .settled (conclude (.error (.badTarget fault)))
    | .ok target => .asking ⟨target, verb⟩ fun reply => conclude (reading read reply)

end Exchange

def stored : Except Trouble α → Except Fault Unit
  | .ok _ => .ok ()
  | .error trouble => .error (.store trouble.message)

/-- A write to an object that is gone counts as done. -/
def storedIfThere : Except Trouble α → Except Fault Unit
  | .ok _ => .ok ()
  | .error trouble => if trouble.isMissing then .ok () else .error (.store trouble.message)

end BucketKeys.Cluster
