import BucketKeys.Authentication.Extraction
import BucketKeys.Issuance.Permissions
import BucketKeys.Pass.Client

/-!
Issuing and revoking the token of a resource. The identity of the token is the external name; a
token is never changed, and its value is known only when it is created.
-/

namespace BucketKeys.Issuance

open TokenApi

inductive Call where
  | authentication (call : Authentication.Call)
  /-- Makes the client of the token service that sends the token with each request. -/
  | authenticate (apiToken : String)
  | listPermissionGroups
  | createToken (request : TokenRequest)
  | getToken (id : String)
  | deleteToken (id : String)
  deriving DecidableEq, Repr

def Answer : Call → Type
  | .authentication call => Authentication.Answer call
  | .authenticate _ => Unit
  | .listPermissionGroups => Except Failure (List PermissionGroup)
  | .createToken _ => Except Failure Token
  | .getToken _ => Except Failure Token
  | .deleteToken _ => Except Failure Unit

def interface : Interface where
  Call := Call
  Answer := Answer

abbrev Step := Work interface Credentials

def ask (call : Call) : Work interface σ (Answer call) :=
  Work.ask (I := interface) call

/-- The groups that grant the permissions, of which there has to be one. -/
def lookupGroups (permissions : List Permission) : Work interface σ (List GroupReference) := do
  let answer : Except Failure (List PermissionGroup) ← ask .listPermissionGroups
  match answer with
  | .error failure => Work.fail (.permissionGroupLookupFailed failure)
  | .ok catalog =>
    let groups := selectGroups catalog permissions
    if groups.isEmpty then Work.fail .noMatchingPermissionGroups else return groups

def tokenRequest (parameters : TokenParameters) (groups : List GroupReference) : TokenRequest :=
  ⟨parameters.name, [.allow (resourceScope parameters.accountId parameters.bucketName) groups]⟩

/-- What a status keeps of a token. -/
def observation (token : Token) (accountId : String) : TokenObservation where
  tokenId := some token.id
  status := token.status
  issuedOn := token.issuedOnText
  endpoint := some (endpoint accountId)

def observe : Step Pass.Observation := do
  let resource ← Work.held
  match resource.externalName? with
  | none => return .absent
  | some id =>
    let answer : Except Failure Token ← ask (.getToken id)
    match answer with
    | .error failure =>
      if failure.isNotFound then return .absent else Work.fail (.tokenFetchFailed failure)
    | .ok token =>
      Work.modify (·.setObservation (observation token resource.spec.forProvider.accountId))
      Pass.setCondition (if token.isUsable then Condition.available else Condition.unavailable)
      return .current

def create : Step ConnectionDetails := do
  let resource ← Work.held
  let parameters := resource.spec.forProvider
  let groups ← lookupGroups parameters.permissions
  let answer : Except Failure Token ← ask (.createToken (tokenRequest parameters groups))
  match answer with
  | .error failure => Work.fail (.tokenCreationFailed failure)
  | .ok token =>
    Work.modify (·.setExternalName token.id)
    return connectionDetails token.id token.value parameters.accountId

def delete : Step Unit := do
  let resource ← Work.held
  match resource.externalName? with
  | none => return ()
  | some id =>
    let answer : Except Failure Unit ← ask (.deleteToken id)
    match answer with
    | .ok () => return ()
    | .error failure =>
      if failure.isNotFound then return () else Work.fail (.tokenDeletionFailed failure)

def client : Pass.Client interface where
  observe := observe
  create := create
  update := pure {}
  delete := delete
  disconnect := pure ()

/-- Faults of finding the token are faults of authentication. -/
def authenticated (work : Work Authentication.interface Credentials α) : Step α := do
  match ← (work.through (J := interface) Call.authentication fun _ answer => answer).attempt with
  | .ok value => return value
  | .error fault => Work.fail fault.unauthenticated

def connect : Step (Pass.Client interface) := do
  let resource ← Work.held
  let apiToken ← authenticated do
    let login ← Authentication.resolve resource
    Work.ofExcept login.token
  let _ ← ask (.authenticate apiToken)
  return client

def connector : Pass.Connector interface := ⟨connect⟩

def controllerName : String := "managed/credentials.r2.cloudflare.crossplane.io"

end BucketKeys.Issuance
