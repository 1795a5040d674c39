import BucketKeys.Proofs.Resource.Documents
import BucketKeys.Resource.ProviderConfig
import BucketKeys.TokenApi.Types

/-!
Resources, provider configurations, their usages and the policies of tokens come back from the
documents that are written of them. What is absent stays absent: a reference that is missing is
written as null, and only one that is not written at all is replaced by the fallback.
-/

namespace BucketKeys

open Json (Lossless)
open Json.Record (required defaulted)

theorem Permission.lossless : Lossless toJson ofJson? :=
  .enumeration fun permission => by cases permission <;> rfl

theorem DeletionPolicy.lossless : Lossless toJson ofJson? :=
  .enumeration fun policy => by cases policy <;> rfl

theorem CredentialSource.lossless : Lossless toJson ofJson? :=
  .enumeration fun source => by cases source <;> rfl

theorem ProviderConfigReference.lossless : Lossless toJson ofJson? := fun _ => rfl

theorem SecretReference.lossless : Lossless toJson ofJson? := fun _ => rfl

theorem SecretKeySelector.lossless : Lossless toJson ofJson? := fun _ => rfl

theorem TypedReference.lossless : Lossless toJson ofJson? := by
  intro reference
  have huid := Lossless.string.optional (by simp) reference.uid
  simp [toJson, ofJson?, required, defaulted, Json.Decode.string, huid]

theorem ProviderCredentials.selector_lossless (field : String) :
    Lossless (selectorToJson field) (selectorOfJson? field) := by
  intro value
  simp [selectorToJson, selectorOfJson?, required, Json.Decode.string]

theorem TokenParameters.lossless : Lossless toJson ofJson? := by
  intro parameters
  have hbucket := Lossless.string.optional (by simp) parameters.bucketName
  have hpermissions := Permission.lossless.list parameters.permissions
  simp [toJson, ofJson?, required, defaulted, Json.Decode.string, hbucket, hpermissions]

theorem CredentialsSpec.lossless : Lossless toJson ofJson? := by
  intro spec
  have hparameters := TokenParameters.lossless spec.forProvider
  have hconfig := ProviderConfigReference.lossless.optional
    (by simp [ProviderConfigReference.toJson]) spec.providerConfigRef
  have hsecret := SecretReference.lossless.optional
    (by simp [SecretReference.toJson]) spec.writeConnectionSecretToRef
  have hpolicy := DeletionPolicy.lossless spec.deletionPolicy
  simp [toJson, ofJson?, required, defaulted, hparameters, hconfig, hsecret, hpolicy]

theorem ProviderCredentials.lossless : Lossless toJson ofJson? := by
  intro credentials
  have hsource := CredentialSource.lossless credentials.source
  have hsecret := SecretKeySelector.lossless.optional
    (by simp [SecretKeySelector.toJson]) credentials.secretRef
  have henv := (selector_lossless "name").optional (by simp [selectorToJson]) credentials.env
  have hfs := (selector_lossless "path").optional (by simp [selectorToJson]) credentials.fs
  simp [toJson, ofJson?, required, defaulted, hsource, hsecret, henv, hfs]

theorem ProviderConfigSpec.lossless : Lossless toJson ofJson? := by
  intro spec
  have hcredentials := ProviderCredentials.lossless spec.credentials
  simp [toJson, ofJson?, required, hcredentials]

theorem ProviderConfigUsageSpec.lossless : Lossless toJson ofJson? := by
  intro spec
  have hconfig := ProviderConfigReference.lossless spec.providerConfigRef
  have hconsumer := TypedReference.lossless spec.resourceRef
  simp [toJson, ofJson?, required, hconfig, hconsumer]

theorem TokenObservation.lossless : Lossless toJson ofJson? := by
  intro observation
  have htext := Lossless.string.optional (by simp)
  simp [toJson, ofJson?, defaulted, htext observation.tokenId, htext observation.status,
    htext observation.issuedOn, htext observation.endpoint]

theorem CredentialsStatus.lossless : Lossless toJson ofJson? := by
  intro status
  have hobserved := TokenObservation.lossless status.atProvider
  have hconditions := Condition.lossless.list status.conditions
  simp [toJson, ofJson?, defaulted, hobserved, hconditions]

namespace TokenApi

theorem GroupReference.lossless : Lossless toJson ofJson? := by
  intro group
  obtain ⟨id, name⟩ := group
  cases name with
  | none => rfl
  | some name => rfl

theorem Policy.lossless : Lossless toJson ofJson? := by
  intro policy
  have hresources := Lossless.string.dictionary policy.resources
  have hgroups := GroupReference.lossless.list policy.permissionGroups
  simp [toJson, ofJson?, required, Json.Decode.string, hresources, hgroups]

end TokenApi

theorem Credentials.ofJson?_toJson {resource : Credentials} {metadata : Metadata}
    (hcarried : Metadata.ofJson? resource.metadata.toJson = some metadata) :
    ofJson? resource.toJson = some { resource with metadata := metadata } := by
  have spec := CredentialsSpec.lossless resource.spec
  have status := CredentialsStatus.lossless.optional
    (by simp [CredentialsStatus.toJson]) resource.status
  apply ofJson?_object.mpr
  refine ⟨resource.metadata.toJson, resource.spec.toJson, ?_, ?_, ?_, hcarried, spec, ?_⟩
  · cases resource.status <;> rfl
  · cases resource.status <;> rfl
  · cases resource.status with
    | none => exact Nat.zero_le 1
    | some status => exact Nat.le_refl 1
  · generalize resource.status = present at status
    cases present with
    | none => rfl
    | some present => exact status

theorem ProviderConfigUsage.ofJson?_toJson {usage : ProviderConfigUsage} {metadata : Metadata}
    (hcarried : Metadata.ofJson? usage.metadata.toJson = some metadata) :
    ofJson? usage.toJson = some { usage with metadata := metadata } := by
  have hspec := ProviderConfigUsageSpec.lossless usage.spec
  have record : Json.Record.ofJson? ["metadata", "spec"] usage.toJson =
      some ⟨false, [("metadata", usage.metadata.toJson), ("spec", usage.spec.toJson)]⟩ := rfl
  simp [ofJson?, record, required, hcarried, hspec]

/-- What is written of any value is read as that value, and a document that was read says as much
once it is written again. -/
structure Json.RoundTrip (write : α → Json) (read : Json.Decoder α) : Prop where
  value : Lossless write read
  document : ∀ json, ((read json).bind fun value => read (write value)) = read json

theorem Json.Lossless.roundTrip {write : α → Json} {read : Json.Decoder α}
    (hlossless : Lossless write read) : Json.RoundTrip write read :=
  ⟨hlossless, hlossless.reread⟩

/-- Nothing of a specification, of a status or of a policy is lost between writing and reading,
and the objects around them lose no more than their metadata do. -/
theorem documents_read_back :
    Json.RoundTrip CredentialsSpec.toJson CredentialsSpec.ofJson? ∧
      Json.RoundTrip CredentialsStatus.toJson CredentialsStatus.ofJson? ∧
      Json.RoundTrip ProviderConfigSpec.toJson ProviderConfigSpec.ofJson? ∧
      Json.RoundTrip ProviderConfigUsageSpec.toJson ProviderConfigUsageSpec.ofJson? ∧
      Json.RoundTrip TokenApi.Policy.toJson TokenApi.Policy.ofJson? ∧
      (∀ (resource : Credentials) (metadata : Metadata),
        Metadata.ofJson? resource.metadata.toJson = some metadata →
          Credentials.ofJson? resource.toJson = some { resource with metadata := metadata }) ∧
      ∀ (usage : ProviderConfigUsage) (metadata : Metadata),
        Metadata.ofJson? usage.metadata.toJson = some metadata →
          ProviderConfigUsage.ofJson? usage.toJson = some { usage with metadata := metadata } :=
  ⟨CredentialsSpec.lossless.roundTrip, CredentialsStatus.lossless.roundTrip,
    ProviderConfigSpec.lossless.roundTrip, ProviderConfigUsageSpec.lossless.roundTrip,
    TokenApi.Policy.lossless.roundTrip, fun _ _ => Credentials.ofJson?_toJson,
    fun _ _ => ProviderConfigUsage.ofJson?_toJson⟩

def unreferenced : Credentials where
  metadata := { name := some "media", finalizers := some ["guard", "other", "guard"] }
  spec :=
    { forProvider := ⟨"account", none, "media-token", [.write, .read, .write]⟩
      providerConfigRef := none
      writeConnectionSecretToRef := none
      deletionPolicy := .orphan }
  status := some { conditions := [⟨"Ready", "True", none, none, some ""⟩] }

theorem documents_read_back_unreferenced :
    Metadata.ofJson? unreferenced.metadata.toJson = some unreferenced.metadata ∧
      Credentials.ofJson? unreferenced.toJson = some unreferenced := by
  have hcarried : Metadata.ofJson? unreferenced.metadata.toJson = some unreferenced.metadata := rfl
  obtain ⟨-, -, -, -, -, hobjects, -⟩ := documents_read_back
  exact ⟨hcarried, hobjects unreferenced unreferenced.metadata hcarried⟩

end BucketKeys
