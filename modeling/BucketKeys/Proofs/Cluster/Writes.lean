import BucketKeys.Proofs.Cluster.Requests
import BucketKeys.Proofs.Json.Paths
import BucketKeys.Proofs.Resource.Documents

/-!
The merge patches that a pass sends do to a stored document what its writes do to the stored
resource.
-/

namespace BucketKeys.Cluster

open Issuance (Write)
open Json (named settled mergeMembers at? covers nest Apart)

inductive Update where
  | annotations (changes : Dictionary (Option String))
  | finalizers (finalizers : List String)
  | status

namespace Update

variable {handed stored : Credentials} {members : List (String × Json)}

def exchange (handed : Credentials) : Update → Exchange Unit
  | annotations changes => updateAnnotations handed changes
  | finalizers list => updateFinalizers handed list
  | status => updateStatus handed

def write (handed : Credentials) : Update → Write
  | annotations changes => .annotations changes
  | finalizers list => .finalizers list
  | status => .status handed

def part : Update → List String
  | annotations _ => ["metadata", "annotations"]
  | finalizers _ => ["metadata", "finalizers"]
  | status => ["status"]

def value (handed : Credentials) : Update → Json
  | annotations changes => Json.ofDictionary (Json.ofOption .string) changes
  | finalizers list => .ofStrings list
  | status => Json.ofOption CredentialsStatus.toJson handed.status

def isForgiving : Update → Bool
  | annotations _ => false
  | finalizers _ => true
  | status => true

def patch (handed : Credentials) (update : Update) : Json :=
  nest update.part (update.value handed)

def subpath : Update → String
  | annotations _ => ""
  | finalizers _ => ""
  | status => "/status"

theorem named_mergeMember (name other : String) (target : List (String × Json)) (change : Json) :
    named other (mergeMembers target [(name, change)]) =
      if name = other then settled (named other target) change else named other target := by
  rw [Json.mergeMembers_eq_foldl]
  exact Json.named_change other target (name, change)

theorem ofJson?_patch_metadata {metadata : Metadata} {name : String} {change : Json}
    (hread : Credentials.ofJson? (.object members) = some stored)
    (hreads : ∀ fields, Metadata.ofJson? (.object fields) = some stored.metadata →
      Metadata.ofJson? (.object (mergeMembers fields [(name, change)])) = some metadata) :
    Credentials.ofJson?
        ((Json.object members).mergePatch (.object [("metadata", .object [(name, change)])])) =
      some { stored with metadata := metadata } := by
  obtain ⟨old, spec, hfirst, hsecond, honce, hbefore, hkept, hstatus⟩ :=
    Credentials.ofJson?_object.mp hread
  obtain ⟨fields, rfl⟩ := Metadata.object_of_ofJson? hbefore
  change Credentials.ofJson?
    (.object (mergeMembers members [("metadata", .object [(name, change)])])) = _
  refine Credentials.ofJson?_object.mpr ⟨.object (mergeMembers fields [(name, change)]), spec,
    ?_, ?_, ?_, hreads fields hbefore, hkept, ?_⟩
  · rw [named_mergeMember, if_pos rfl, hfirst]
    rfl
  · rw [named_mergeMember, if_neg (by decide), hsecond]
  · rw [named_mergeMember, if_neg (by decide)]
    exact honce
  · rw [named_mergeMember, if_neg (by decide)]
    exact hstatus

theorem ofJson?_patch_annotations (changes : Dictionary (Option String))
    (hread : Credentials.ofJson? (.object members) = some stored) :
    Credentials.ofJson? ((Json.object members).mergePatch (annotationsPatch changes)) =
      some (stored.patchAnnotations changes) := by
  refine ofJson?_patch_metadata hread fun fields hbefore => ?_
  have htexts := Json.optional_of_sparse (Metadata.annotations_of_ofJson? hbefore)
  refine Metadata.ofJson?_of_annotations hbefore
    (fun name hother => by rw [named_mergeMember, if_neg (Ne.symm hother)]) ?_
  apply Json.sparse_of_named (by rw [named_mergeMember, if_pos rfl]; rfl)
  exact congrArg (Option.map some) (Json.dictionary_mergePatch htexts changes)

theorem ofJson?_patch_finalizers (finalizers : List String)
    (hread : Credentials.ofJson? (.object members) = some stored) :
    Credentials.ofJson? ((Json.object members).mergePatch (finalizersPatch finalizers)) =
      some (stored.setFinalizers finalizers) := by
  refine ofJson?_patch_metadata hread fun fields hbefore => ?_
  refine Metadata.ofJson?_of_finalizers hbefore
    (fun name hother => by rw [named_mergeMember, if_neg (Ne.symm hother)]) ?_
  apply Json.sparse_of_named (by rw [named_mergeMember, if_pos rfl]; rfl)
  exact congrArg (Option.map some) (Json.list_ofStrings finalizers)

theorem ofJson?_patch_status (handed : Credentials)
    (hread : Credentials.ofJson? (.object members) = some stored) :
    Credentials.ofJson? ((Json.object members).mergePatch handed.statusPatch) =
      some { stored with status := handed.status } := by
  obtain ⟨metadata, spec, hfirst, hsecond, honce, hbefore, hkept, -⟩ :=
    Credentials.ofJson?_object.mp hread
  have hothers {name : String} (hother : "status" ≠ name) (change : Json) :
      named name (mergeMembers members [("status", change)]) = named name members := by
    rw [named_mergeMember, if_neg hother]
  change Credentials.ofJson? (.object (mergeMembers members
    [("status", Json.ofOption CredentialsStatus.toJson handed.status)])) = _
  refine Credentials.ofJson?_object.mpr ⟨metadata, spec, by rw [hothers (by decide), hfirst],
    by rw [hothers (by decide), hsecond], ?_, hbefore, hkept, ?_⟩
  · rw [named_mergeMember, if_pos rfl]
    exact Json.Record.length_settled_le _ _
  · rw [named_mergeMember, if_pos rfl]
    cases handed.status with
    | none => rfl
    | some status =>
        exact congrArg (Option.map some) (CredentialsStatus.ofJson?_mergePatch _ status)

theorem ofJson?_patch (update : Update) (handed : Credentials)
    (hread : Credentials.ofJson? (.object members) = some stored) :
    Credentials.ofJson? ((Json.object members).mergePatch (update.patch handed)) =
      some ((update.write handed).apply stored) := by
  cases update with
  | annotations changes => exact ofJson?_patch_annotations changes hread
  | finalizers list => exact ofJson?_patch_finalizers list hread
  | status => exact ofJson?_patch_status handed hread

def conclude (update : Update) (result : Except Trouble Credentials) : Except Fault Unit :=
  if update.isForgiving then storedIfThere result else Cluster.stored result

theorem exchange_eq (update : Update) (handed : Credentials) :
    update.exchange handed =
      .about (objectsPath .credentials) handed.displayName update.subpath
        (.merge (update.patch handed)) Credentials.ofJson? update.conclude := by
  cases update <;> rfl

theorem read_target (update : Update) (hproper : ProperName handed.displayName)
    (resource : Credentials) :
    Url.Target.read (targetText (objectsPath .credentials) handed.displayName update.subpath
        (Verb.merge (update.patch resource)).parameters) =
      .ok (patchTarget handed.displayName update.subpath) := by
  cases update with
  | status =>
      exact read_patchTarget hproper (show "/status".toList.all Url.Target.isPathChar by decide)
        (show "/status".utf8ByteSize ≤ 7 by decide) _
  | _ =>
      exact read_patchTarget hproper (show "".toList.all Url.Target.isPathChar by decide)
        (show "".utf8ByteSize ≤ 7 by decide) _

theorem conclude_ok (update : Update) (resource : Credentials) :
    update.conclude (.ok resource) = .ok () := by
  cases update <;> rfl

theorem conclude_failed (update : Update) {trouble : Trouble}
    (hpresent : trouble.isMissing = false) :
    update.conclude (.error trouble) = .error (.store trouble.message) := by
  cases update <;> simp [conclude, isForgiving, storedIfThere, Cluster.stored, hpresent]

theorem conclude_refused (update : Update) (refusal : Refusal) :
    update.conclude (.error (.refused refusal)) =
      if refusal.code = 404 ∧ update.isForgiving then .ok ()
      else .error (.store (Trouble.refused refusal).message) := by
  by_cases hmissing : refusal.code = 404 <;> cases update <;>
    simp [conclude, isForgiving, storedIfThere, Cluster.stored, Trouble.isMissing, hmissing]

/-- An update is one merge patch of the object of that name. What the resource is afterwards is what
the write says, and all that the patch does not speak of stays as it is. -/
theorem exchange_refines (update : Update) (handed : Credentials)
    (read : Credentials.ofJson? (.object members) = some stored) :
    (¬ ProperName handed.displayName ∧
      ∃ message, update.exchange handed = .settled (.error (.store message))) ∨
    ∃ request finish, update.exchange handed = .asking request finish ∧
      (ProperName handed.displayName →
        request.target = patchTarget handed.displayName update.subpath) ∧
      request.verb = .merge (update.patch handed) ∧
      let after := (Json.object members).mergePatch (update.patch handed)
      Credentials.ofJson? after = some ((update.write handed).apply stored) ∧
      finish (.ok after) = .ok () ∧
      (∀ path, covers path (update.patch handed) = false →
        at? path after = at? path (.object members)) ∧
      (∀ path, Apart path update.part → at? path after = at? path (.object members)) ∧
      ∀ refusal, finish (.error refusal) =
        if refusal.code = 404 ∧ update.isForgiving then .ok ()
        else .error (.store (Trouble.refused refusal).message) := by
  rw [exchange_eq, Exchange.about]
  by_cases hempty : handed.displayName.isEmpty
  · refine .inl ⟨fun hproper => hproper.1 (String.isEmpty_iff.mp hempty),
      Trouble.emptyName.message, ?_⟩
    rw [if_pos hempty, update.conclude_failed rfl]
  · rw [if_neg hempty]
    cases target : Url.Target.read (targetText (objectsPath .credentials) handed.displayName
        update.subpath (Verb.merge (update.patch handed)).parameters) with
    | error fault =>
        refine .inl ⟨fun hproper => ?_, _, congrArg _ (update.conclude_failed rfl)⟩
        rw [update.read_target hproper handed] at target
        cases target
    | ok target =>
        refine .inr ⟨_, _, rfl, fun hproper => ?_, rfl, ofJson?_patch update handed read, ?_,
          fun path houtside => Json.at?_mergePatch _ houtside,
          fun path hapart => Json.at?_mergePatch _ (Json.covers_nest hapart _),
          update.conclude_refused⟩
        · rw [update.read_target hproper handed] at target
          exact (Except.ok.inj target).symm
        · rw [Exchange.reading, ofJson?_patch update handed read]
          exact update.conclude_ok _

def annotatedDocument : List (String × Json) :=
  [("kind", .string "Credentials"),
   ("metadata", .object
     [("name", .string "media"), ("zone", .nat 1),
      ("annotations", .object [("team", .string "media"), ("team", .string "apps")])]),
   ("spec", .object
     [("forProvider", .object [("accountId", .string "acct"), ("name", .string "media-token")])]),
   ("status", .object
     [("atProvider", .array [.string "tok-1", .string "active"]), ("shard", .nat 7)])]

def annotatedResource : Credentials where
  metadata := { name := some "media", annotations := some (.singleton "team" "apps") }
  spec := ⟨⟨"acct", none, "media-token", []⟩, some .fallback, none, .delete⟩
  status := some ⟨⟨some "tok-1", some "active", none, none⟩, []⟩

def reissuedResource : Credentials :=
  { annotatedResource with
    status := some ⟨⟨some "tok-2", none, none, none⟩, [⟨"Ready", "True", none, none, none⟩]⟩ }

theorem exchange_refines_reissued :
    Credentials.ofJson? (.object annotatedDocument) = some annotatedResource ∧
    ∃ request finish, Update.status.exchange reissuedResource = .asking request finish ∧
      request.target = patchTarget "media" "/status" ∧
      (let after := (Json.object annotatedDocument).mergePatch reissuedResource.statusPatch
       request.verb = .merge reissuedResource.statusPatch ∧
         Credentials.ofJson? after = some reissuedResource ∧
         at? ["status", "shard"] after = some (.nat 7)) ∧
      finish (.error ⟨404, "gone", "NotFound"⟩) = .ok () := by
  have hread : Credentials.ofJson? (.object annotatedDocument) = some annotatedResource := rfl
  refine ⟨hread, ?_⟩
  obtain ⟨himproper, -⟩ |
      ⟨request, finish, hasks, htarget, hverb, stored, -, houtside, -, hrefused⟩ :=
    exchange_refines .status reissuedResource hread
  · exact absurd (by decide) himproper
  · exact ⟨request, finish, hasks, htarget (by decide), ⟨hverb, stored, houtside _ rfl⟩, hrefused _⟩

end Update

end BucketKeys.Cluster
