import BucketKeys.Resource.Condition
import BucketKeys.Resource.Kind
import BucketKeys.Resource.Metadata
import BucketKeys.Resource.Reference

/-!
The resource that asks for a token: which account and bucket it is for, where the issued keys go,
and what has been observed of the token.
-/

namespace BucketKeys

inductive Permission where
  | read
  | write
  deriving DecidableEq, Repr

structure TokenParameters where
  accountId : String
  bucketName : Option String
  name : String
  /-- No permission at all asks for both. -/
  permissions : List Permission
  deriving DecidableEq, Repr

structure CredentialsSpec where
  forProvider : TokenParameters
  providerConfigRef : Option ProviderConfigReference
  writeConnectionSecretToRef : Option SecretReference
  deletionPolicy : DeletionPolicy
  deriving DecidableEq, Repr

structure TokenObservation where
  tokenId : Option String := none
  status : Option String := none
  issuedOn : Option String := none
  endpoint : Option String := none
  deriving DecidableEq, Repr

structure CredentialsStatus where
  atProvider : TokenObservation := {}
  conditions : List Condition := []
  deriving DecidableEq, Repr

structure Credentials where
  metadata : Metadata
  spec : CredentialsSpec
  status : Option CredentialsStatus
  deriving Repr

namespace Permission

def name : Permission → String
  | read => "read"
  | write => "write"

def all : List (String × Permission) :=
  [("read", read), ("write", write)]

def toJson (permission : Permission) : Json :=
  .string permission.name

def ofJson? : Json.Decoder Permission :=
  Json.Decode.enumeration all

end Permission

namespace TokenParameters

def toJson (parameters : TokenParameters) : Json :=
  .object
    [("accountId", .string parameters.accountId),
     ("bucketName", Json.ofOption .string parameters.bucketName),
     ("name", .string parameters.name),
     ("permissions", .array (parameters.permissions.map Permission.toJson))]

def ofJson? : Json.Decoder TokenParameters := fun json => do
  let record ← Json.Record.ofJson? ["accountId", "bucketName", "name", "permissions"] json
  return {
    accountId := ← record.required "accountId" Json.Decode.string
    bucketName := ← record.defaulted "bucketName" (Json.Decode.optional Json.Decode.string) none
    name := ← record.required "name" Json.Decode.string
    permissions := ← record.defaulted "permissions" (Json.Decode.list Permission.ofJson?) [] }

end TokenParameters

namespace CredentialsSpec

def toJson (spec : CredentialsSpec) : Json :=
  .object
    [("forProvider", spec.forProvider.toJson),
     ("providerConfigRef", Json.ofOption ProviderConfigReference.toJson spec.providerConfigRef),
     ("writeConnectionSecretToRef",
       Json.ofOption SecretReference.toJson spec.writeConnectionSecretToRef),
     ("deletionPolicy", spec.deletionPolicy.toJson)]

/-- A resource that does not mention a provider configuration uses the fallback, and one that
says null uses none. -/
def ofJson? : Json.Decoder CredentialsSpec := fun json => do
  let record ← Json.Record.ofJson?
    ["forProvider", "providerConfigRef", "writeConnectionSecretToRef", "deletionPolicy"] json
  return {
    forProvider := ← record.required "forProvider" TokenParameters.ofJson?
    providerConfigRef :=
      ← record.defaulted "providerConfigRef" (Json.Decode.optional ProviderConfigReference.ofJson?)
        (some ProviderConfigReference.fallback)
    writeConnectionSecretToRef :=
      ← record.defaulted "writeConnectionSecretToRef" (Json.Decode.optional SecretReference.ofJson?)
        none
    deletionPolicy := ← record.defaulted "deletionPolicy" DeletionPolicy.ofJson? .delete }

end CredentialsSpec

namespace TokenObservation

def toJson (observation : TokenObservation) : Json :=
  .object
    [("tokenId", Json.ofOption .string observation.tokenId),
     ("status", Json.ofOption .string observation.status),
     ("issuedOn", Json.ofOption .string observation.issuedOn),
     ("endpoint", Json.ofOption .string observation.endpoint)]

def ofJson? : Json.Decoder TokenObservation := fun json => do
  let record ← Json.Record.ofJson? ["tokenId", "status", "issuedOn", "endpoint"] json
  let text (name : String) :=
    record.defaulted name (Json.Decode.optional Json.Decode.string) none
  return ⟨← text "tokenId", ← text "status", ← text "issuedOn", ← text "endpoint"⟩

end TokenObservation

namespace CredentialsStatus

def toJson (status : CredentialsStatus) : Json :=
  .object
    [("atProvider", status.atProvider.toJson),
     ("conditions", .array (status.conditions.map Condition.toJson))]

def ofJson? : Json.Decoder CredentialsStatus := fun json => do
  let record ← Json.Record.ofJson? ["atProvider", "conditions"] json
  return ⟨← record.defaulted "atProvider" TokenObservation.ofJson? {},
    ← record.defaulted "conditions" (Json.Decode.list Condition.ofJson?) []⟩

end CredentialsStatus

namespace Credentials

def toJson (resource : Credentials) : Json :=
  Json.present
    [("apiVersion", some (.string Kind.credentials.apiVersion)),
     ("kind", some (.string Kind.credentials.name)),
     ("metadata", some resource.metadata.toJson),
     ("spec", some resource.spec.toJson),
     ("status", resource.status.map CredentialsStatus.toJson)]

def ofJson? : Json.Decoder Credentials := fun json => do
  let record ← Json.Record.ofJson? ["metadata", "spec", "status"] json
  return ⟨← record.required "metadata" Metadata.ofJson?,
    ← record.required "spec" CredentialsSpec.ofJson?,
    ← record.nullable "status" CredentialsStatus.ofJson?⟩

def name (resource : Credentials) : String :=
  resource.metadata.name.getD ""

/-- The name, or else the stem from which the cluster was to make one. -/
def displayName (resource : Credentials) : String :=
  (resource.metadata.name.orElse fun _ => resource.metadata.generateName).getD ""

def reference (resource : Credentials) : TypedReference :=
  ⟨Kind.credentials.apiVersion, Kind.credentials.name, resource.displayName, resource.metadata.uid⟩

def conditions (resource : Credentials) : List Condition :=
  (resource.status.map (·.conditions)).getD []

def setCondition (condition : Condition) (resource : Credentials) : Credentials :=
  let status := resource.status.getD {}
  { resource with status := some { status with conditions := condition.set status.conditions } }

def setObservation (observation : TokenObservation) (resource : Credentials) : Credentials :=
  let status := resource.status.getD {}
  { resource with status := some { status with atProvider := observation } }

/-- The patch that replaces the whole status. -/
def statusPatch (resource : Credentials) : Json :=
  .object [("status", Json.ofOption CredentialsStatus.toJson resource.status)]

@[simp] theorem conditions_setCondition (condition : Condition) (resource : Credentials) :
    (resource.setCondition condition).conditions = condition.set resource.conditions := by
  cases hstatus : resource.status <;> simp [setCondition, conditions, hstatus]

end Credentials

end BucketKeys
