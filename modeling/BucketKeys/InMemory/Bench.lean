import BucketKeys.InMemory.Files
import BucketKeys.InMemory.Rehearsal
import BucketKeys.InMemory.TokenService
import BucketKeys.InMemory.World
import BucketKeys.Issuance.Client
import BucketKeys.Json.MergePatch

/-!
A bench to try a controller on: one stored resource, its configurations and secrets, a token
service, and cues for a rehearsed client. Calls are noted when they arrive, and may be slow or
refused.
-/

namespace BucketKeys.InMemory

open Time (Instant Span)

inductive Note where
  | issuance (call : Issuance.Call)
  | rehearsal (operation : Operation)
  | updateAnnotations (changes : Dictionary (Option String))
  | updateFinalizers (finalizers : List String)
  | updateStatus (status : Option CredentialsStatus)
  | publish (secret : Option SecretReference) (details : ConnectionDetails)
  deriving DecidableEq, Repr

structure Bench where
  object : Json
  configs : Dictionary Json
  /-- Values by namespace, secret and key, with slashes between them. -/
  secrets : Dictionary Bytes
  environment : Environment
  files : Files
  usageRefusal : Option String
  service : TokenService
  /-- For each kind of write, which of the next ones are refused. -/
  refusals : Dictionary (List Bool)
  cues : Dictionary (List Cue)
  latencies : Dictionary Span
  notes : List Note

namespace Bench

def withObject (object : Json) : Bench where
  object := object
  configs := {}
  secrets := {}
  environment := {}
  files := ⟨[]⟩
  usageRefusal := none
  service := .withCatalog []
  refusals := {}
  cues := {}
  latencies := {}
  notes := []

def resource? (bench : Bench) : Option Credentials :=
  Credentials.ofJson? bench.object

def store (resource : Credentials) (bench : Bench) : Bench :=
  { bench with object := resource.toJson }

/-- Applies a merge patch to the stored resource, unless the outcome is no resource. -/
def edit? (patch : Json) (bench : Bench) : Option Bench :=
  let object := bench.object.mergePatch patch
  (Credentials.ofJson? object).map fun _ => { bench with object := object }

def noted (note : Note) (bench : Bench) : Bench :=
  { bench with notes := note :: bench.notes }

def slowness (name : String) (bench : Bench) : Span :=
  (bench.latencies.get? name).getD .zero

def secretName (selector : SecretKeySelector) : String :=
  selector.namespaceName ++ "/" ++ selector.name ++ "/" ++ selector.key

def providerConfig (name : String) (bench : Bench) : Except Fault ProviderConfigSpec :=
  match bench.configs.get? name with
  | none => .error (.configurationResolutionFailed name "not found")
  | some config =>
    match ProviderConfigSpec.ofJson? config with
    | some spec => .ok spec
    | none => .error (.configurationResolutionFailed name "malformed")

def secretKey (selector : SecretKeySelector) (bench : Bench) : Except Fault Bytes :=
  match bench.secrets.get? (secretName selector) with
  | some data => .ok data
  | none => .error (.credentialExtractionFailed "secret not found")

def track (bench : Bench) : Except Fault Unit :=
  match bench.usageRefusal with
  | some message => .error (.store message)
  | none => .ok ()

def authentication (call : Authentication.Call) (bench : Bench) : Authentication.Answer call :=
  match call with
  | .providerConfig name => bench.providerConfig name
  | .track .. => bench.track
  | .secretKey selector => bench.secretKey selector
  | .variable name => bench.environment.read name
  | .file path =>
    match bench.files.read path with
    | .ok data => Except.ok data
    | .error fault => Except.error fault.message

def issuance (call : Issuance.Call) (bench : Bench) : Issuance.Answer call × Bench :=
  match call with
  | .authentication call => (bench.authentication call, bench)
  | .authenticate _ => ((), bench)
  | .listPermissionGroups => (bench.service.listPermissionGroups, bench)
  | .createToken request =>
    let (answer, service) := bench.service.createToken request
    (answer, { bench with service := service })
  | .getToken id => (bench.service.getToken id, bench)
  | .deleteToken id =>
    let (answer, service) := bench.service.deleteToken id
    (answer, { bench with service := service })

def latencyName? : Issuance.Call → Option String
  | .authentication (.providerConfig _) => some "provider_config"
  | .listPermissionGroups => some "list"
  | .createToken _ => some "create"
  | .getToken _ => some "get"
  | .deleteToken _ => some "delete"
  | _ => none

def authenticationAct (call : Authentication.Call) : Act Bench (Authentication.Answer call) where
  note := noted (.issuance (.authentication call))
  wait bench := ((latencyName? (.authentication call)).map bench.slowness).getD .zero
  effect bench := (bench.authentication call, bench)

def issuanceAct (call : Issuance.Call) : Act Bench (Issuance.Answer call) where
  note := noted (.issuance call)
  wait bench := ((latencyName? call).map bench.slowness).getD .zero
  effect := issuance call

def nextCue (operation : Operation) (bench : Bench) : Cue × Bench :=
  match bench.cues.get? operation.name with
  | some (cue :: rest) => (cue, { bench with cues := bench.cues.insert operation.name rest })
  | _ => ({}, bench)

def rehearsalAct (operation : Operation) : Act Bench Cue where
  note := noted (.rehearsal operation)
  wait := slowness operation.name
  effect := nextCue operation

def nextRefusal (name : String) (bench : Bench) : Bool × Bench :=
  match bench.refusals.get? name with
  | some (refused :: rest) => (refused, { bench with refusals := bench.refusals.insert name rest })
  | _ => (false, bench)

def write (name : String) (note : Note) (refusal : Fault) (change : Json → Json) :
    Act Bench (Except Fault Unit) where
  note := noted note
  wait := slowness name
  effect bench :=
    let (refused, bench) := bench.nextRefusal name
    if refused then (.error refusal, bench)
    else (.ok (), { bench with object := change bench.object })

def conflict : Fault := .store "conflict"

def changeAnnotations (changes : Dictionary (Option String)) (object : Json) : Json :=
  object.mergePatch (.object
    [("metadata", .object
      [("annotations", Json.ofDictionary (Json.ofOption .string) changes)])])

def replaceFinalizers (finalizers : List String) (object : Json) : Json :=
  object.mergePatch (.object [("metadata", .object [("finalizers", .ofStrings finalizers)])])

def replaceStatus (status : Option CredentialsStatus) (object : Json) : Json :=
  .object (Json.putName "status" (Json.ofOption CredentialsStatus.toJson status) object.members)

def passAct {R : Interface} (remote : (call : R.Call) → Act Bench (R.Answer call))
    (call : Pass.Call R) : Act Bench (Pass.Answer call) :=
  match call with
  | .remote call => remote call
  | .updateAnnotations _ changes =>
    write "update_annotations" (.updateAnnotations changes) conflict (changeAnnotations changes)
  | .updateFinalizers _ finalizers =>
    write "update_finalizers" (.updateFinalizers finalizers) conflict
      (replaceFinalizers finalizers)
  | .updateStatus resource =>
    write "update_status" (.updateStatus resource.status) conflict
      (replaceStatus resource.status)
  | .publish resource details =>
    write "publish" (.publish resource.spec.writeConnectionSecretToRef details)
      (.connectionPublishFailed "denied") id
  | .pause span => .pause span

end Bench

end BucketKeys.InMemory
