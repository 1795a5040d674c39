import BucketKeys.Resource.Kind
import BucketKeys.Resource.Metadata
import BucketKeys.Resource.Reference

/-!
Provider configurations say where the credentials for the token service are read from; usages
record which resource depends on which configuration.
-/

namespace BucketKeys

inductive CredentialSource where
  | none
  | secret
  | environment
  | filesystem
  deriving DecidableEq, Repr

/-- A source, and the selectors of all sources; only the selector of the source counts. -/
structure ProviderCredentials where
  source : CredentialSource
  secretRef : Option SecretKeySelector
  env : Option String
  fs : Option String
  deriving DecidableEq, Repr

structure ProviderConfigSpec where
  credentials : ProviderCredentials
  deriving DecidableEq, Repr

structure ProviderConfigUsageSpec where
  providerConfigRef : ProviderConfigReference
  resourceRef : TypedReference
  deriving DecidableEq, Repr

namespace CredentialSource

def name : CredentialSource → String
  | none => "None"
  | secret => "Secret"
  | environment => "Environment"
  | filesystem => "Filesystem"

def all : List (String × CredentialSource) :=
  [("None", none), ("Secret", secret), ("Environment", environment), ("Filesystem", filesystem)]

def toJson (source : CredentialSource) : Json :=
  .string source.name

def ofJson? : Json.Decoder CredentialSource :=
  Json.Decode.enumeration all

end CredentialSource

namespace ProviderCredentials

def selectorToJson (field value : String) : Json :=
  .object [(field, .string value)]

def selectorOfJson? (field : String) : Json.Decoder String := fun json => do
  let record ← Json.Record.ofJson? [field] json
  record.required field Json.Decode.string

def toJson (credentials : ProviderCredentials) : Json :=
  .object
    [("source", credentials.source.toJson),
     ("secretRef", Json.ofOption SecretKeySelector.toJson credentials.secretRef),
     ("env", Json.ofOption (selectorToJson "name") credentials.env),
     ("fs", Json.ofOption (selectorToJson "path") credentials.fs)]

def ofJson? : Json.Decoder ProviderCredentials := fun json => do
  let record ← Json.Record.ofJson? ["source", "secretRef", "env", "fs"] json
  return {
    source := ← record.required "source" CredentialSource.ofJson?
    secretRef :=
      ← record.defaulted "secretRef" (Json.Decode.optional SecretKeySelector.ofJson?) none
    env := ← record.defaulted "env" (Json.Decode.optional (selectorOfJson? "name")) none
    fs := ← record.defaulted "fs" (Json.Decode.optional (selectorOfJson? "path")) none }

end ProviderCredentials

namespace ProviderConfigSpec

def toJson (spec : ProviderConfigSpec) : Json :=
  .object [("credentials", spec.credentials.toJson)]

def ofJson? : Json.Decoder ProviderConfigSpec := fun json => do
  let record ← Json.Record.ofJson? ["credentials"] json
  return ⟨← record.required "credentials" ProviderCredentials.ofJson?⟩

def ofObject? : Json.Decoder ProviderConfigSpec := fun json => do
  let record ← Json.Record.ofJson? ["metadata", "spec"] json
  let _ ← record.required "metadata" Metadata.ofJson?
  record.required "spec" ofJson?

end ProviderConfigSpec

namespace ProviderConfigUsageSpec

def toJson (spec : ProviderConfigUsageSpec) : Json :=
  .object
    [("providerConfigRef", spec.providerConfigRef.toJson),
     ("resourceRef", spec.resourceRef.toJson)]

def ofJson? : Json.Decoder ProviderConfigUsageSpec := fun json => do
  let record ← Json.Record.ofJson? ["providerConfigRef", "resourceRef"] json
  return ⟨← record.required "providerConfigRef" ProviderConfigReference.ofJson?,
    ← record.required "resourceRef" TypedReference.ofJson?⟩

end ProviderConfigUsageSpec

structure ProviderConfigUsage where
  metadata : Metadata
  spec : ProviderConfigUsageSpec
  deriving Repr

namespace ProviderConfigUsage

def configLabel : String := "crossplane.io/provider-config"

/-- A usage is named after the consumer's identity, so that each consumer has one, and belongs to
the consumer, so that it goes with it. -/
def record (config : ProviderConfigReference) (consumer : TypedReference) : ProviderConfigUsage where
  metadata := {
    name := some (consumer.uid.getD consumer.name)
    labels := some (.singleton configLabel config.name)
    ownerReferences := consumer.uid.map fun uid =>
      [⟨consumer.apiVersion, consumer.kind, consumer.name, uid, some true, some true⟩] }
  spec := ⟨config, consumer⟩

def name (usage : ProviderConfigUsage) : String :=
  usage.metadata.name.getD ""

def toJson (usage : ProviderConfigUsage) : Json :=
  .object
    [("apiVersion", .string Kind.providerConfigUsage.apiVersion),
     ("kind", .string Kind.providerConfigUsage.name),
     ("metadata", usage.metadata.toJson),
     ("spec", usage.spec.toJson)]

def ofJson? : Json.Decoder ProviderConfigUsage := fun json => do
  let record ← Json.Record.ofJson? ["metadata", "spec"] json
  return ⟨← record.required "metadata" Metadata.ofJson?,
    ← record.required "spec" ProviderConfigUsageSpec.ofJson?⟩

end ProviderConfigUsage

end BucketKeys
