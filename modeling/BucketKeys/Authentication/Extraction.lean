import BucketKeys.Authentication.Login
import BucketKeys.Resource.Credentials
import BucketKeys.Resource.ProviderConfig
import BucketKeys.Script
import BucketKeys.Settings.Environment

/-!
Where the controller's own credentials come from: a key of a secret, a variable of the
environment or a file, as the provider configuration says.
-/

namespace BucketKeys.Authentication

inductive Call where
  | providerConfig (name : String)
  /-- Records that a resource uses a configuration. -/
  | track (config : ProviderConfigReference) (consumer : TypedReference)
  | secretKey (selector : SecretKeySelector)
  | variable (name : String)
  | file (path : String)
  deriving DecidableEq, Repr

def Answer : Call → Type
  | .providerConfig _ => Except Fault ProviderConfigSpec
  | .track .. => Except Fault Unit
  | .secretKey _ => Except Fault Bytes
  | .variable _ => Except VariableFault String
  | .file _ => Except String Bytes

def interface : Interface where
  Call := Call
  Answer := Answer

def ask (call : Call) : Work interface σ (Answer call) :=
  Work.ask (I := interface) call

def missing (what : String) : Fault :=
  .credentialExtractionFailed ("cannot extract from " ++ what ++ " specified")

def extract (credentials : ProviderCredentials) : Work interface σ Bytes :=
  match credentials.source with
  | .none =>
    Work.fail (.credentialExtractionFailed "credentials source None does not provide credentials")
  | .secret =>
    match credentials.secretRef with
    | none => Work.fail (missing "secret key when none")
    | some selector => do
      let answer : Except Fault Bytes ← ask (.secretKey selector)
      Work.ofExcept answer
  | .environment =>
    match credentials.env with
    | none => Work.fail (missing "environment variable when none")
    | some name => do
      let answer : Except VariableFault String ← ask (.variable name)
      match answer with
      | .ok text => return Text.encode text
      | .error fault =>
        Work.fail (.credentialExtractionFailed
          ("cannot read environment variable " ++ name ++ ": " ++ fault.message))
  | .filesystem =>
    match credentials.fs with
    | none => Work.fail (missing "filesystem when no path")
    | some path => do
      let answer : Except String Bytes ← ask (.file path)
      match answer with
      | .ok data => return data
      | .error message =>
        Work.fail (.credentialExtractionFailed
          ("cannot read file " ++ path ++ ": " ++ message))

/-- The login for a resource: look up its configuration, record the use, then read and parse the
credentials. -/
def resolve (resource : Credentials) : Work interface σ Login := do
  match resource.spec.providerConfigRef.filter (!·.name.isEmpty) with
  | none => Work.fail .configurationMissing
  | some reference =>
    let config : Except Fault ProviderConfigSpec ← ask (.providerConfig reference.name)
    let config ← Work.ofExcept config
    let tracked : Except Fault Unit ← ask (.track reference resource.reference)
    match tracked with
    | .error fault =>
      Work.fail (.configurationResolutionFailed reference.name
        ("cannot track ProviderConfig usage: " ++ fault.message))
    | .ok () =>
      let data ← extract config.credentials
      Work.ofExcept (Login.read data)

end BucketKeys.Authentication
