import BucketKeys.Proofs.Json.Lossless
import BucketKeys.Proofs.Resource.Conditions

/-!
Documents of resources: what of a document a resource is read from, and what is read from it after
a part of it was patched.
-/

namespace BucketKeys

open Json (named settled mergeMembers sparse)

variable {members changed : List (String × Json)}

theorem Json.sparse_congr {name : String} (hsame : named name changed = named name members)
    (value : Json.Decoder α) : sparse changed name value = sparse members name value := by
  rw [sparse_eq, sparse_eq, hsame]

namespace Metadata

variable {metadata : Metadata}

theorem ofJson?_of_annotations {texts : Option (Dictionary String)}
    (hread : ofJson? (.object members) = some metadata)
    (hkept : ∀ name, name ≠ "annotations" → named name changed = named name members)
    (hset : sparse changed "annotations" (Json.Decode.dictionary Json.Decode.string) = some texts) :
    ofJson? (.object changed) = some { metadata with annotations := texts } := by
  -- The fields are read one after the other, and each of them is taken off both readings.
  obtain ⟨former, -, hread⟩ := Option.bind_eq_some_iff.mp hread
  refine Option.bind_eq_some_iff.mpr ⟨texts, hset, ?_⟩
  iterate 14
    obtain ⟨value, hpresent, hrest⟩ := Option.bind_eq_some_iff.mp hread
    have hsame := (Json.sparse_congr (hkept _ (by decide)) _).trans hpresent
    refine Option.bind_eq_some_iff.mpr ⟨value, hsame, ?_⟩
    replace hread := hrest
  cases hread
  rfl

theorem ofJson?_of_finalizers {finalizers : Option (List String)}
    (hread : ofJson? (.object members) = some metadata)
    (hkept : ∀ name, name ≠ "finalizers" → named name changed = named name members)
    (hset : sparse changed "finalizers" (Json.Decode.list Json.Decode.string) = some finalizers) :
    ofJson? (.object changed) = some { metadata with finalizers := finalizers } := by
  iterate 4
    obtain ⟨value, hpresent, hrest⟩ := Option.bind_eq_some_iff.mp hread
    have hsame := (Json.sparse_congr (hkept _ (by decide)) _).trans hpresent
    refine Option.bind_eq_some_iff.mpr ⟨value, hsame, ?_⟩
    replace hread := hrest
  obtain ⟨former, -, hread⟩ := Option.bind_eq_some_iff.mp hread
  refine Option.bind_eq_some_iff.mpr ⟨finalizers, hset, ?_⟩
  iterate 10
    obtain ⟨value, hpresent, hrest⟩ := Option.bind_eq_some_iff.mp hread
    have hsame := (Json.sparse_congr (hkept _ (by decide)) _).trans hpresent
    refine Option.bind_eq_some_iff.mpr ⟨value, hsame, ?_⟩
    replace hread := hrest
  cases hread
  rfl

theorem annotations_of_ofJson? (hread : ofJson? (.object members) = some metadata) :
    sparse members "annotations" (Json.Decode.dictionary Json.Decode.string) =
      some metadata.annotations := by
  obtain ⟨annotations, hpresent, hread⟩ := Option.bind_eq_some_iff.mp hread
  iterate 14
    obtain ⟨value, -, hrest⟩ := Option.bind_eq_some_iff.mp hread
    replace hread := hrest
  cases hread
  exact hpresent

theorem object_of_ofJson? {json : Json} (hread : ofJson? json = some metadata) :
    ∃ members, json = .object members := by
  cases json with
  | object members => exact ⟨members, rfl⟩
  | _ => cases hread

end Metadata

namespace Json

theorem optional_of_sparse {name : String} {value : Decoder α} {found : Option α}
    (hread : sparse members name value = some found) :
    Decode.optional value ((named name members).getLast?.getD .null) = some found := by
  rw [sparse_eq, Option.map_eq_some_iff] at hread
  obtain ⟨values, hread, rfl⟩ := hread
  rcases List.eq_nil_or_concat (named name members) with hnone | ⟨earlier, last, hseveral⟩
  · rw [hnone] at hread ⊢
    cases hread
    rfl
  · rw [hseveral, List.concat_eq_append] at hread ⊢
    simp only [List.mapM_append, List.mapM_cons, List.mapM_nil, Option.bind_eq_bind,
      Option.bind_eq_some_iff, Option.pure_def, Option.some.injEq] at hread
    obtain ⟨before, -, _, ⟨value, hpresent, _, rfl, rfl⟩, rfl⟩ := hread
    simpa using hpresent

theorem sparse_of_named {name : String} {value : Decoder α} {json : Json} {found : Option α}
    (hsingle : named name members = [json]) (hread : Decode.optional value json = some found) :
    sparse members name value = some found := by
  rw [sparse_eq, hsingle]
  simp [hread]

theorem list_ofStrings (texts : List String) :
    Decode.list Decode.string (ofStrings texts) = some texts :=
  Lossless.string.list texts

end Json

namespace Json.Record

variable {names : List String} {changes : List (String × Json)}

theorem length_settled_le (old : List Json) (value : Json) : (settled old value).length ≤ 1 := by
  cases value <;> simp [settled]

theorem ofJson?_mergeMembers (target : List (String × Json))
    (hdistinct : changes.Pairwise (fun a b => a.1 ≠ b.1)) (hwhole : names = changes.map (·.1)) :
    ofJson? names (.object (mergeMembers target changes)) =
      some ⟨false, known names (mergeMembers target changes)⟩ := by
  refine ofJson?_object.mpr ⟨fun name hlisted => ?_, rfl⟩
  rw [hwhole, List.mem_map] at hlisted
  obtain ⟨change, hmember, rfl⟩ := hlisted
  rw [named_mergeMembers target hdistinct hmember]
  exact length_settled_le _ _

theorem defaulted_mergeMembers {name : String} (target : List (String × Json))
    (hdistinct : changes.Pairwise (fun a b => a.1 ≠ b.1)) (hlisted : name ∈ names) (change : Json)
    (hmember : (name, change) ∈ changes) (value : Decoder α) (missing : α) :
    (Record.mk false (known names (mergeMembers target changes))).defaulted name value missing =
      (settled (named name target) change).head?.elim (some missing) value := by
  rw [defaulted, find?_known hlisted, named_mergeMembers target hdistinct hmember]
  cases (settled (named name target) change).head? <;> rfl

theorem settled_text (old : List Json) (text : Option String) :
    (settled old (ofOption .string text)).head?.elim (some none) (Decode.optional Decode.string) =
      some text := by
  cases text <;> rfl

end Json.Record

theorem Condition.lossless : Json.Lossless toJson ofJson? := by
  intro condition
  obtain ⟨type, status, time, reason, message⟩ := condition
  cases time <;> cases reason <;> cases message <;> rfl

/-- Whatever was observed before, nothing of it is left. -/
theorem TokenObservation.ofJson?_mergePatch (old : Json) (observation : TokenObservation) :
    ofJson? (old.mergePatch observation.toJson) = some observation := by
  let names := ["tokenId", "status", "issuedOn", "endpoint"]
  let changes : List (String × Json) :=
    [("tokenId", Json.ofOption .string observation.tokenId),
     ("status", Json.ofOption .string observation.status),
     ("issuedOn", Json.ofOption .string observation.issuedOn),
     ("endpoint", Json.ofOption .string observation.endpoint)]
  have hdistinct : changes.Pairwise (fun a b => a.1 ≠ b.1) := by simp [changes]
  have record := Json.Record.ofJson?_mergeMembers old.members hdistinct (show names = _ from rfl)
  have text (name : String) (text : Option String) (hlisted : name ∈ names)
      (hmember : (name, Json.ofOption .string text) ∈ changes) :=
    (Json.Record.defaulted_mergeMembers old.members hdistinct hlisted _ hmember
      (Json.Decode.optional Json.Decode.string) none).trans (Json.Record.settled_text _ text)
  have htokenId := text "tokenId" observation.tokenId (by decide) (by simp [changes])
  have hstatus := text "status" observation.status (by decide) (by simp [changes])
  have hissuedOn := text "issuedOn" observation.issuedOn (by decide) (by simp [changes])
  have hendpoint := text "endpoint" observation.endpoint (by decide) (by simp [changes])
  change ofJson? (.object (mergeMembers old.members changes)) = _
  exact Option.bind_eq_some_iff.mpr ⟨_, record, Option.bind_eq_some_iff.mpr ⟨_, htokenId,
    Option.bind_eq_some_iff.mpr ⟨_, hstatus, Option.bind_eq_some_iff.mpr ⟨_, hissuedOn,
      Option.bind_eq_some_iff.mpr ⟨_, hendpoint, rfl⟩⟩⟩⟩⟩

theorem CredentialsStatus.ofJson?_mergePatch (old : Json) (status : CredentialsStatus) :
    ofJson? (old.mergePatch status.toJson) = some status := by
  let names := ["atProvider", "conditions"]
  let changes : List (String × Json) :=
    [("atProvider", status.atProvider.toJson),
     ("conditions", .array (status.conditions.map Condition.toJson))]
  have hdistinct : changes.Pairwise (fun a b => a.1 ≠ b.1) := by simp [changes]
  have record := Json.Record.ofJson?_mergeMembers old.members hdistinct (show names = _ from rfl)
  have hobserved : (Json.Record.mk false (Json.Record.known names
      (mergeMembers old.members changes))).defaulted "atProvider" TokenObservation.ofJson? {} =
        some status.atProvider := by
    rw [Json.Record.defaulted_mergeMembers _ hdistinct (by decide) status.atProvider.toJson
      (by simp [changes])]
    exact TokenObservation.ofJson?_mergePatch _ _
  have conditions : (Json.Record.mk false (Json.Record.known names
      (mergeMembers old.members changes))).defaulted "conditions"
        (Json.Decode.list Condition.ofJson?) [] = some status.conditions := by
    rw [Json.Record.defaulted_mergeMembers _ hdistinct (by decide)
      (.array (status.conditions.map Condition.toJson)) (by simp [changes])]
    exact Condition.lossless.list status.conditions
  change ofJson? (.object (mergeMembers old.members changes)) = _
  exact Option.bind_eq_some_iff.mpr ⟨_, record, Option.bind_eq_some_iff.mpr ⟨_, hobserved,
    Option.bind_eq_some_iff.mpr ⟨_, conditions, rfl⟩⟩⟩

theorem Credentials.ofJson?_object {resource : Credentials} :
    ofJson? (.object members) = some resource ↔
      ∃ metadata spec, named "metadata" members = [metadata] ∧ named "spec" members = [spec] ∧
        (named "status" members).length ≤ 1 ∧
        Metadata.ofJson? metadata = some resource.metadata ∧
        CredentialsSpec.ofJson? spec = some resource.spec ∧
        (named "status" members).head?.elim (some none)
          (Json.Decode.optional CredentialsStatus.ofJson?) = some resource.status := by
  let names := ["metadata", "spec", "status"]
  let record := Json.Record.mk false (Json.Record.known names members)
  have hsingle {name : String} {json : Json} (honce : (named name members).length ≤ 1)
      (hfirst : (named name members).head? = some json) : named name members = [json] := by
    cases hvalues : named name members with
    | nil => simp [hvalues] at hfirst
    | cons head rest =>
        rw [hvalues] at honce hfirst
        cases rest with
        | nil => simpa using hfirst
        | cons next rest => simp at honce
  have hnullable : record.nullable "status" CredentialsStatus.ofJson? =
      (named "status" members).head?.elim (some none)
        (Json.Decode.optional CredentialsStatus.ofJson?) := by
    rw [Json.Record.nullable, Json.Record.find?_known (by decide)]
    cases (named "status" members).head? <;> rfl
  have hrequired {α : Type} (name : String) (value : Json.Decoder α) (hlisted : name ∈ names) :
      record.required name value = (named name members).head?.bind value := by
    rw [Json.Record.required, Json.Record.find?_known hlisted]
  constructor
  · intro hread
    simp only [ofJson?, Option.bind_eq_bind, Option.bind_eq_some_iff, Option.pure_def,
      Option.some.injEq] at hread
    obtain ⟨_, hrecords, _, metadata, _, spec, _, status, rfl⟩ := hread
    obtain ⟨honce, rfl⟩ := Json.Record.ofJson?_object.mp hrecords
    change record.required _ _ = _ at metadata spec
    rw [hrequired _ _ (by decide), Option.bind_eq_some_iff] at metadata spec
    obtain ⟨metadata, hfirst, hread⟩ := metadata
    obtain ⟨spec, hsecond, hreads⟩ := spec
    exact ⟨metadata, spec, hsingle (honce _ (by decide)) hfirst,
      hsingle (honce _ (by decide)) hsecond, honce _ (by decide), hread, hreads,
      hnullable.symm.trans status⟩
  · rintro ⟨metadata, spec, hfirst, hsecond, honce, hread, hreads, status⟩
    have hrecords : Json.Record.ofJson? names (.object members) = some record := by
      refine Json.Record.ofJson?_object.mpr ⟨?_, rfl⟩
      simp [names, hfirst, hsecond, honce]
    refine Option.bind_eq_some_iff.mpr ⟨_, hrecords, Option.bind_eq_some_iff.mpr
      ⟨resource.metadata, ?_, Option.bind_eq_some_iff.mpr ⟨resource.spec, ?_,
        Option.bind_eq_some_iff.mpr ⟨resource.status, hnullable.trans status, rfl⟩⟩⟩⟩
    · rw [hrequired _ _ (by decide), hfirst]
      exact hread
    · rw [hrequired _ _ (by decide), hsecond]
      exact hreads

end BucketKeys
