import BucketKeys.Proofs.Resource.Documents
import BucketKeys.Proofs.Schema.Reading
import BucketKeys.Schema.Definition

/-!
The definitions of the custom resources agree with the readers of the resources: whatever a cluster
admits under a definition is read, and the fallbacks that the cluster fills in are the ones that the
readers take for a missing field.
-/

namespace BucketKeys

namespace Schema

theorem providerConfigReference_tells (notes : Notes) :
    (providerConfigReference notes).Tells ProviderConfigReference.ofJson? := by
  refine record_tells (by decide) (by decide) fun given filled hmatched => ?_
  refine (hmatched.text rfl (by decide) rfl).bind fun name => ?_
  exact .pure _

theorem secretReference_tells (notes : Notes) :
    (secretReference notes).Tells SecretReference.ofJson? := by
  refine record_tells (by decide) (by decide) fun given filled hmatched => ?_
  refine (hmatched.text rfl (by decide) rfl).bind fun name => ?_
  refine (hmatched.text rfl (by decide) rfl).bind fun namespaceName => ?_
  exact .pure _

theorem secretKeySelector_tells (notes : Notes) :
    (secretKeySelector notes).Tells SecretKeySelector.ofJson? := by
  refine record_tells (by decide) (by decide) fun given filled hmatched => ?_
  refine (hmatched.text rfl (by decide) rfl).bind fun name => ?_
  refine (hmatched.text rfl (by decide) rfl).bind fun namespaceName => ?_
  refine (hmatched.text rfl (by decide) rfl).bind fun key => ?_
  exact .pure _

theorem typedReference_tells (notes : Notes) :
    (typedReference notes).Tells TypedReference.ofJson? := by
  refine record_tells (by decide) (by decide) fun given filled hmatched => ?_
  refine (hmatched.text rfl (by decide) rfl).bind fun apiVersion => ?_
  refine (hmatched.text rfl (by decide) rfl).bind fun kind => ?_
  refine (hmatched.text rfl (by decide) rfl).bind fun name => ?_
  refine (hmatched.optionalText rfl rfl).bind fun uid => ?_
  exact .pure _

theorem selector_tells (notes : Notes) (field : String) (inner : Notes)
    (hsolid : inner.nullable = false) :
    (record notes [(field, .text inner)] [field]).Tells
      (ProviderCredentials.selectorOfJson? field) := by
  refine record_tells (by simp) (by simp) fun given filled hmatched => ?_
  exact hmatched.text List.lookup_cons_self (.head _) hsolid

theorem tokenParameters_tells (notes : Notes) :
    (tokenParameters notes).Tells TokenParameters.ofJson? := by
  refine record_tells (by decide) (by decide) fun given filled hmatched => ?_
  refine (hmatched.text rfl (by decide) rfl).bind fun accountId => ?_
  refine (hmatched.optionalText rfl rfl).bind fun bucketName => ?_
  refine (hmatched.text rfl (by decide) rfl).bind fun name => ?_
  refine (hmatched.defaulted rfl
    ((list_tells _ ((choice_tells _ Permission.all).solid rfl)).solid rfl) []
    (by rintro _ ⟨⟩; rfl)).bind fun permissions => ?_
  exact .pure _

theorem credentialsSpec_tells : credentialsSpec.Tells CredentialsSpec.ofJson? := by
  refine record_tells (by decide) (by decide) fun given filled hmatched => ?_
  refine (hmatched.required rfl (by decide)
    ((tokenParameters_tells _).solid rfl)).bind fun forProvider => ?_
  refine (hmatched.defaulted rfl (providerConfigReference_tells _).optional
    (some ProviderConfigReference.fallback) (by rintro _ ⟨⟩; rfl)).bind fun config => ?_
  refine (hmatched.defaulted rfl (secretReference_tells _).optional none
    (by rintro _ ⟨⟩)).bind fun secret => ?_
  refine (hmatched.defaulted rfl ((choice_tells _ DeletionPolicy.all).solid rfl) .delete
    (by rintro _ ⟨⟩; rfl)).bind fun deletionPolicy => ?_
  exact .pure _

theorem providerConfigSpec_tells : providerConfigSpec.Tells ProviderConfigSpec.ofJson? := by
  refine record_tells (by decide) (by decide) fun given filled hmatched => ?_
  refine (hmatched.required rfl (by decide) (Tells.solid ?_ rfl)).bind fun credentials => .pure _
  refine record_tells (by decide) (by decide) fun given filled hmatched => ?_
  refine (hmatched.required rfl (by decide)
    ((choice_tells _ CredentialSource.all).solid rfl)).bind fun source => ?_
  refine (hmatched.defaulted rfl (secretKeySelector_tells _).optional none
    (by rintro _ ⟨⟩)).bind fun secretRef => ?_
  refine (hmatched.defaulted rfl (selector_tells _ "name" _ rfl).optional none
    (by rintro _ ⟨⟩)).bind fun env => ?_
  refine (hmatched.defaulted rfl (selector_tells _ "path" _ rfl).optional none
    (by rintro _ ⟨⟩)).bind fun fs => ?_
  exact .pure _

theorem providerConfigUsageSpec_tells :
    providerConfigUsageSpec.Tells ProviderConfigUsageSpec.ofJson? := by
  refine record_tells (by decide) (by decide) fun given filled hmatched => ?_
  refine (hmatched.required rfl (by decide)
    ((providerConfigReference_tells _).solid rfl)).bind fun providerConfigRef => ?_
  refine (hmatched.required rfl (by decide)
    ((typedReference_tells _).solid rfl)).bind fun resourceRef => ?_
  exact .pure _

theorem condition_tells : condition.Tells Condition.ofJson? := by
  refine record_tells (by decide) (by decide) fun given filled hmatched => ?_
  refine (hmatched.text rfl (by decide) rfl).bind fun type => ?_
  refine (hmatched.text rfl (by decide) rfl).bind fun status => ?_
  refine (hmatched.optionalText rfl rfl).bind fun time => ?_
  refine (hmatched.optionalText rfl rfl).bind fun reason => ?_
  refine (hmatched.optionalText rfl rfl).bind fun message => ?_
  exact .pure _

theorem tokenObservation_tells (notes : Notes) :
    (tokenObservation notes).Tells TokenObservation.ofJson? := by
  refine record_tells (by decide) (by decide) fun given filled hmatched => ?_
  refine (hmatched.optionalText rfl rfl).bind fun tokenId => ?_
  refine (hmatched.optionalText rfl rfl).bind fun status => ?_
  refine (hmatched.optionalText rfl rfl).bind fun issuedOn => ?_
  refine (hmatched.optionalText rfl rfl).bind fun endpoint => ?_
  exact .pure _

theorem credentialsStatus_tells : credentialsStatus.Tells CredentialsStatus.ofJson? := by
  refine record_tells (by decide) (by decide) fun given filled hmatched => ?_
  refine (hmatched.defaulted rfl ((tokenObservation_tells _).solid rfl) {}
    (by rintro _ ⟨⟩; rfl)).bind fun atProvider => ?_
  refine (hmatched.defaulted rfl ((list_tells _ (condition_tells.solid rfl)).solid rfl) []
    (by rintro _ ⟨⟩; rfl)).bind fun conditions => ?_
  exact .pure _

end Schema

namespace Definition

open Json (Record)

def metadata? (document : Json) : Option Metadata :=
  (document.get? "metadata").bind Metadata.ofJson?

/-- What is read of the status of a document, which may have none. -/
def status? (document : Json) : Option (Option CredentialsStatus) :=
  (document.get? "status").elim (some none) (Json.Decode.optional CredentialsStatus.ofJson?)

theorem find?_eq_get? {names : List String} {document : Json} {record : Record}
    (hrecorded : Record.ofJson? names document = some record) (hnamed : record.positional = false)
    {name : String} (hlisted : name ∈ names) : record.find? name = document.get? name := by
  cases document with
  | object members =>
      obtain ⟨honce, rfl⟩ := Record.ofJson?_object.mp hrecorded
      rw [Record.find?_known hlisted, Json.get?, Json.lookup?_eq_getLast?]
      have hsingle := honce name hlisted
      generalize Json.named name members = values at hsingle
      match values with
      | [] => rfl
      | [value] => rfl
      | _ :: _ :: _ => simp at hsingle
  | array items =>
      obtain ⟨-, hsame⟩ := Option.ite_none_right_eq_some.mp hrecorded
      cases hsame
      cases hnamed
  | _ => cases hrecorded

theorem metadata?_eq {names : List String} {document : Json} {record : Record}
    (hrecorded : Record.ofJson? names document = some record) (hnamed : record.positional = false)
    (hlisted : "metadata" ∈ names) :
    record.required "metadata" Metadata.ofJson? = metadata? document := by
  rw [Record.required, find?_eq_get? hrecorded hnamed hlisted, metadata?]

def fields (definition : Definition) : List (String × Schema) :=
  ("spec", definition.spec) :: (definition.status.map (("status", ·))).toList

theorem records_of_accepts (definition : Definition) (names : List String) {json : Json}
    (hknown : ∀ name ∈ definition.fields.map (·.1), name ∈ names) (hlisted : "metadata" ∈ names)
    (hunrepeated : json.Unrepeated) (haccepted : definition.schema.accepts json = true) :
    ∃ given filled, Record.ofJson? names json = some given ∧
      Record.ofJson? names (definition.schema.fill json) = some filled ∧
      Schema.Matched definition.fields ["spec"] given filled ∧
      metadata? (definition.schema.fill json) = metadata? json := by
  have hdistinct : (definition.fields.map (·.1)).Nodup := by
    cases htold : definition.status <;> simp [fields, htold]
  have hfree : "metadata" ∉ definition.fields.map (·.1) := by
    cases htold : definition.status <;> simp [fields, htold]
  have hpresent : json ≠ .null := by
    rintro rfl
    rw [Schema.accepts_null] at haccepted
    cases haccepted
  obtain ⟨given, filled, hhere, hthere, hmatched, hothers⟩ :=
    Schema.matched_of_accepts hdistinct hknown hunrepeated hpresent haccepted
  change Record.ofJson? names (definition.schema.fill json) = some filled at hthere
  refine ⟨given, filled, hhere, hthere, hmatched, ?_⟩
  rw [← metadata?_eq hthere hmatched.named.2 hlisted, ← metadata?_eq hhere hmatched.named.1 hlisted,
    Record.required, Record.required, hothers "metadata" hlisted hfree]

theorem credentials_of_record {document : Json} {record : Record} {spec : CredentialsSpec}
    {status : Option CredentialsStatus}
    (hrecorded : Record.ofJson? ["metadata", "spec", "status"] document = some record)
    (hnamed : record.positional = false)
    (hspecified : record.required "spec" CredentialsSpec.ofJson? = some spec)
    (hreported : record.nullable "status" CredentialsStatus.ofJson? = some status) :
    (document.get? "spec").bind CredentialsSpec.ofJson? = some spec ∧
      status? document = some status ∧
      Credentials.ofJson? document = (metadata? document).map (⟨·, spec, status⟩) := by
  have hfound {name : String} (hlisted : name ∈ ["metadata", "spec", "status"]) :=
    find?_eq_get? hrecorded hnamed hlisted
  refine ⟨?_, ?_, ?_⟩
  · rwa [Record.required, hfound (by decide)] at hspecified
  · rw [Record.nullable, hnamed, hfound (by decide)] at hreported
    unfold status?
    cases habsent : document.get? "status" with
    | none => rwa [habsent] at hreported
    | some json => rwa [habsent] at hreported
  · unfold Credentials.ofJson?
    simp only [hrecorded, hspecified, hreported, metadata?_eq hrecorded hnamed (by decide),
      Option.bind_eq_bind, Option.bind_some]
    cases metadata? document <;> rfl

theorem credentials_read {json : Json} (hunrepeated : json.Unrepeated)
    (haccepted : credentials.schema.accepts json = true) :
    ∃ spec status, ∀ document ∈ [json, credentials.schema.fill json],
      (document.get? "spec").bind CredentialsSpec.ofJson? = some spec ∧
        status? document = some status ∧
        Credentials.ofJson? document = (metadata? json).map (⟨·, spec, status⟩) := by
  obtain ⟨given, filled, hhere, hthere, hmatched, hkept⟩ :=
    records_of_accepts credentials ["metadata", "spec", "status"] (by decide) (by decide)
      hunrepeated haccepted
  obtain ⟨spec, hspecified, hrespecified⟩ : Agree (given.required "spec" CredentialsSpec.ofJson?)
      (filled.required "spec" CredentialsSpec.ofJson?) :=
    hmatched.required rfl (by decide) (Schema.credentialsSpec_tells.solid rfl)
  obtain ⟨status, hreported, hrereported⟩ :
      Agree (given.nullable "status" CredentialsStatus.ofJson?)
        (filled.nullable "status" CredentialsStatus.ofJson?) :=
    hmatched.nullable rfl Schema.credentialsStatus_tells rfl
  refine ⟨spec, status, List.forall_mem_cons.mpr ⟨?_, List.forall_mem_singleton.mpr ?_⟩⟩
  · exact credentials_of_record hhere hmatched.named.1 hspecified hreported
  · rw [← hkept]
    exact credentials_of_record hthere hmatched.named.2 hrespecified hrereported

theorem spec_read (definition : Definition) {read : Json.Decoder α}
    (hunderstood : definition.spec.Understood read) (hplain : definition.status = none)
    {json : Json}
    (hunrepeated : json.Unrepeated) (haccepted : definition.schema.accepts json = true) :
    ∃ spec, ∀ document ∈ [json, definition.schema.fill json],
      (document.get? "spec").bind read = some spec ∧
        ∃ record, Record.ofJson? ["metadata", "spec"] document = some record ∧
          record.required "metadata" Metadata.ofJson? = metadata? json ∧
          record.required "spec" read = some spec := by
  have hknown : ∀ name ∈ definition.fields.map (·.1), name ∈ ["metadata", "spec"] := by
    simp [fields, hplain]
  obtain ⟨given, filled, hhere, hthere, hmatched, hkept⟩ :=
    records_of_accepts definition ["metadata", "spec"] hknown (by decide) hunrepeated haccepted
  obtain ⟨spec, hspecified, hrespecified⟩ : Agree (given.required "spec" read)
      (filled.required "spec" read) :=
    hmatched.required List.lookup_cons_self (by decide) hunderstood
  have htold {document : Json} {record : Record}
      (hrecorded : Record.ofJson? ["metadata", "spec"] document = some record)
      (hnamed : record.positional = false) (hfound : record.required "spec" read = some spec) :
      (document.get? "spec").bind read = some spec := by
    rwa [Record.required, find?_eq_get? hrecorded hnamed (by decide)] at hfound
  refine ⟨spec, List.forall_mem_cons.mpr ⟨?_, List.forall_mem_singleton.mpr ?_⟩⟩
  · exact ⟨htold hhere hmatched.named.1 hspecified, given, hhere,
      metadata?_eq hhere hmatched.named.1 (by decide), hspecified⟩
  · rw [← hkept]
    exact ⟨htold hthere hmatched.named.2 hrespecified, filled, hthere,
      metadata?_eq hthere hmatched.named.2 (by decide), hrespecified⟩

/-- Whatever a cluster admits under one of the definitions is read: its specification and its status
always, and the whole of it if its metadata are. What is filled in for missing fields changes
nothing. -/
theorem admitted_documents_read {json : Json} (unrepeated : json.Unrepeated) :
    (credentials.schema.accepts json = true →
      ∃ spec status, ∀ document ∈ [json, credentials.schema.fill json],
        (document.get? "spec").bind CredentialsSpec.ofJson? = some spec ∧
          status? document = some status ∧
          Credentials.ofJson? document = (metadata? json).map (⟨·, spec, status⟩)) ∧
    (providerConfig.schema.accepts json = true →
      ∃ spec, ∀ document ∈ [json, providerConfig.schema.fill json],
        (document.get? "spec").bind ProviderConfigSpec.ofJson? = some spec ∧
          ProviderConfigSpec.ofObject? document = (metadata? json).map fun _ => spec) ∧
    (providerConfigUsage.schema.accepts json = true →
      ∃ spec, ∀ document ∈ [json, providerConfigUsage.schema.fill json],
        (document.get? "spec").bind ProviderConfigUsageSpec.ofJson? = some spec ∧
          ProviderConfigUsage.ofJson? document = (metadata? json).map (⟨·, spec⟩)) := by
  refine ⟨credentials_read unrepeated, fun haccepted => ?_, fun haccepted => ?_⟩
  · obtain ⟨spec, hreads⟩ := spec_read providerConfig
      (Schema.providerConfigSpec_tells.solid rfl) rfl unrepeated haccepted
    refine ⟨spec, fun document hmember => ?_⟩
    obtain ⟨hspecified, record, hrecorded, hmetadata, hfound⟩ := hreads document hmember
    refine ⟨hspecified, ?_⟩
    simp only [ProviderConfigSpec.ofObject?, hrecorded, hmetadata, hfound, Option.bind_eq_bind,
      Option.bind_some]
    cases metadata? json <;> rfl
  · obtain ⟨spec, hreads⟩ := spec_read providerConfigUsage
      (Schema.providerConfigUsageSpec_tells.solid rfl) rfl unrepeated haccepted
    refine ⟨spec, fun document hmember => ?_⟩
    obtain ⟨hspecified, record, hrecorded, hmetadata, hfound⟩ := hreads document hmember
    refine ⟨hspecified, ?_⟩
    simp only [ProviderConfigUsage.ofJson?, hrecorded, hmetadata, hfound, Option.bind_eq_bind,
      Option.bind_some]
    cases metadata? json <;> rfl

def draft : Json :=
  .object
    [("kind", .string "Credentials"),
     ("metadata", .object [("name", .string "media")]),
     ("spec", .object
       [("forProvider", .object
         [("name", .string "media-token"), ("accountId", .string "account"), ("bucketName", .null),
          ("comment", .array [.null])]),
        ("writeConnectionSecretToRef", .null)]),
     ("status", .object
       [("conditions", .array
         [.object [("status", .string "True"), ("type", .string "Ready"), ("reason", .null)]])])]

theorem admitted_documents_read_draft :
    draft.Unrepeated ∧ credentials.schema.accepts draft = true ∧
      ∃ resource, Credentials.ofJson? draft = some resource ∧
        Credentials.ofJson? (credentials.schema.fill draft) = some resource := by
  have hunrepeated : draft.Unrepeated := rfl
  have haccepted : credentials.schema.accepts draft = true := by decide +kernel
  obtain ⟨spec, status, hreads⟩ := (admitted_documents_read hunrepeated).1 haccepted
  obtain ⟨hgiven, hfilled⟩ := List.forall_mem_cons.mp hreads
  have hmetadata : metadata? draft = some { name := some "media" } := rfl
  refine ⟨hunrepeated, haccepted, ⟨{ name := some "media" }, spec, status⟩, ?_, ?_⟩
  · rw [hgiven.2.2, hmetadata, Option.map_some]
  · rw [(hfilled _ List.mem_cons_self).2.2, hmetadata, Option.map_some]

end Definition

end BucketKeys
