import BucketKeys.Proofs.Course.Publication
import BucketKeys.Proofs.Issuance.Groundwork

/-!
How the keys to what a token reaches are handed on: only those of a token that the pass got and
recorded, and those of each token once.
-/

namespace BucketKeys.Issuance

open Bookkeeping TokenApi

theorem entries_detailsOf (resource : Credentials) (token : Token) :
    (detailsOf resource token).entries =
      [("access_key_id", Text.encode token.id),
       ("endpoint",
        Text.encode (resource.spec.forProvider.accountId ++ ".r2.cloudflarestorage.com")),
       ("secret_access_key", Text.encode (Digest.Sha256.hexOfText (token.value.getD ""))),
       ("token_value", Text.encode (token.value.getD ""))] := by
  have hhost : endpoint resource.spec.forProvider.accountId =
      resource.spec.forProvider.accountId ++ ".r2.cloudflarestorage.com" := by
    rw [endpoint, String.append_assoc]
    rfl
  rw [← hhost]
  simp +decide only [detailsOf, connectionDetails, Dictionary.ofList, List.foldl_cons,
    List.foldl_nil, Dictionary.insert, Dictionary.insertEntry, Dictionary.empty, accessKeyName,
    secretKeyName, endpointName, tokenValueName, if_true, if_false]

section Pass

variable {resource : Credentials} {acts : List Act}

/-- The changes say that a creation succeeded, and which token it gave. -/
structure Attests (token : Token) (changes : Dictionary (Option String)) : Prop where
  succeeded : ∃ now, changes.get? succeededKey = some (some (Time.Rfc3339.stamp now))
  named : changes.get? externalNameKey = some (some token.id)

/-- A token was created and, after that, recorded. -/
def Recorded (token : Token) : List Act → Prop :=
  Then (fun act => ∃ copy changes, act = .annotated copy changes (.ok ()) ∧ Attests token changes)
    fun before => token ∈ created before

theorem attests_successAnnotations {token : Token} (hnamed : token.id ≠ "") (now : Time.Instant) :
    Attests token
      (Pass.successAnnotations (Time.Rfc3339.stamp now) (recordedName token)) where
  succeeded := by
    exists now
    rw [get?_successAnnotations_outcome (.inl rfl), if_pos rfl]
  named := by
    rw [get?_successAnnotations_externalName, recordedName_of_ne hnamed]
    rfl

theorem created_of_recorded (hkept : (protocol resource).Kept .start acts) {token : Token}
    (hrecorded : (protocol resource).stageAfter .start acts = .recorded token) :
    created acts = [token] := by
  have hheld := (created_of_kept hkept).2
  rw [hrecorded] at hheld
  exact hheld (by rintro ⟨⟩)

theorem recorded_of_kept (hkept : (protocol resource).Kept .start acts) {token : Token}
    (hnamed : token.id ≠ "")
    (hrecorded : (protocol resource).stageAfter .start acts = .recorded token) :
    Recorded token acts := by
  induction acts with
  | nil => cases hrecorded
  | cons act before ih =>
      have hturn := turn_of_permitted hkept.2
      have hheld := (created_of_kept hkept.1).2
      change (protocol resource).next _ act = .recorded token at hrecorded
      rw [hrecorded] at hturn
      generalize (protocol resource).stageAfter .start before = stage at hturn hheld ih
      cases hturn with
      | idle stage idle => exact (ih hkept.1 rfl).cons act
      | recorded hlive token now copy =>
          have hcreates : token ∈ created before := by
            rw [hheld (by rintro ⟨⟩)]
            exact List.mem_singleton.mpr rfl
          exact .here ⟨copy, _, rfl, attests_successAnnotations hnamed now⟩ hcreates

def Stage.IsUndelivered : Stage → Prop
  | delivered _ => False
  | spent => False
  | _ => True

theorem Stage.IsUnasked.isUndelivered {stage : Stage} (hunasked : stage.IsUnasked) :
    stage.IsUndelivered := by
  cases stage with
  | delivered token | spent => exact hunasked.elim
  | _ => trivial

theorem Turn.isUndelivered {stage last : Stage} {act : Act} (hturn : Turn resource stage act last)
    (hundelivered : last.IsUndelivered) : stage.IsUndelivered ∧ publishing? act = none := by
  cases hturn with
  | idle stage idle =>
      refine ⟨hundelivered, ?_⟩
      cases idle <;> rfl
  | held hlive hvacant copy => exact ⟨(Stage.isClear_of_isVacant hvacant).2.isUndelivered, rfl⟩
  | released hdeleting hcustody copy =>
      have hunasked := Preparatory.isUnasked (.finalizers copy _) hcustody
      exact ⟨hunasked.isUndelivered, rfl⟩
  | announcing hlive hprepared now => exact
      ⟨(Stage.isClear_of_isHeld hprepared).2.isUndelivered, rfl⟩
  | spent | delivered => exact hundelivered.elim
  | _ => exact ⟨trivial, rfl⟩

theorem publishing_of_undelivered (hkept : (protocol resource).Kept .start acts)
    (hundelivered : ((protocol resource).stageAfter .start acts).IsUndelivered) :
    publishing acts = [] := by
  refine stage_invariant (fun stage acts => stage.IsUndelivered → publishing acts = [])
    (fun _ => rfl) ?_ hkept hundelivered
  intro stage act last before hturn hknown hundelivered
  obtain ⟨hearlier, hnone⟩ := hturn.isUndelivered hundelivered
  rw [publishing, List.filterMap_cons_none hnone]
  exact hknown hearlier

theorem publishing_sublist (hkept : (protocol resource).Kept .start acts) :
    (publishing acts).Sublist ((created acts).map (detailsOf resource)) := by
  induction acts with
  | nil => exact .refl []
  | cons act before ih =>
      cases hpublishes : publishing? act with
      | none =>
          rw [publishing, List.filterMap_cons_none hpublishes, created_cons, List.map_append]
          exact (ih hkept.1).trans (List.sublist_append_right ..)
      | some details =>
          obtain ⟨copy, hput⟩ := call?_of_publishing? hpublishes
          obtain ⟨-, token, hhere, rfl⟩ := hkept.2 _ hput
          -- Right behind the record nothing has been handed on yet.
          have none : publishing before = [] := by
            apply publishing_of_undelivered hkept.1
            rw [hhere]
            trivial
          have hcreates := created_of_recorded hkept.1 hhere
          rw [publishing, List.filterMap_cons_some hpublishes, ← publishing, none, created_cons,
            hcreates, List.map_append]
          exact List.sublist_append_right ..

theorem publication_recorded (hkept : (protocol resource).Kept .start acts)
    (hnamed : ∀ token ∈ created acts, token.id ≠ "") {after before : List Act} {act : Act}
    {details : ConnectionDetails} (hsplit : acts = after ++ act :: before)
    (hpublishes : publishing? act = some details) :
    ∃ token, Recorded token before ∧ details = detailsOf resource token := by
  obtain ⟨copy, hput⟩ := call?_of_publishing? hpublishes
  have hwithin : before.Sublist acts := by
    rw [hsplit]
    exact (List.sublist_cons_self act before).trans (List.sublist_append_right ..)
  rw [hsplit] at hkept
  obtain ⟨hearlier, -, token, hrecorded, rfl⟩ := hkept.permitted hput
  have hcreates : token ∈ created before := by
    rw [created_of_recorded hearlier hrecorded]
    exact List.mem_singleton.mpr rfl
  have hnonempty := hnamed token ((hwithin.filterMap created?).subset hcreates)
  exact ⟨token, recorded_of_kept hearlier hnonempty hrecorded, rfl⟩

end Pass

structure Passage where
  options : PassOptions
  resource : Credentials
  moments : List (Moment (Round.interface interface))
  rest : Option (Script (Round.interface interface) Credentials Round.Outcome)
  reached : (Round.run connector options resource).Reaches moments rest

namespace Passage

def acts (passage : Passage) : List Act := passage.moments.filterMap Round.told

theorem kept (passage : Passage) : (protocol passage.resource).Kept .start passage.acts :=
  (Round.reaches_told (round_keeps passage.resource passage.options) passage.reached).1

def supplies (passage : Passage) : List ConnectionDetails :=
  (created passage.acts).map (detailsOf passage.resource)

end Passage

def opens (id : String) (details : ConnectionDetails) : Bool :=
  details.get? accessKeyName = some (Text.encode id)

theorem opens_detailsOf (id : String) (resource : Credentials) (token : Token) :
    opens id (detailsOf resource token) = decide (token.id = id) := by
  rw [opens, decide_eq_decide, accessKey_detailsOf, Option.some.injEq]
  exact ⟨Text.encode_injective, congrArg Text.encode⟩

theorem Passage.countP_supplies (passage : Passage) (id : String) :
    passage.supplies.countP (opens id) = (created passage.acts).countP (·.id = id) := by
  rw [supplies, List.countP_map]
  apply List.countP_congr
  intro token _
  rw [Function.comp_apply, opens_detailsOf]

/-- How a run of rounds, over any resources, hands on the keys to tokens. The acts are listed with
the last of them first. -/
structure Handover (passages : List Passage) : Prop where
  recorded : ∀ passage ∈ passages, ∀ after act before details,
    passage.acts = after ++ act :: before → publishing? act = some details →
      ∃ token, Recorded token before ∧ details.entries =
        [("access_key_id", Text.encode token.id),
         ("endpoint", Text.encode
          (passage.resource.spec.forProvider.accountId ++ ".r2.cloudflarestorage.com")),
         ("secret_access_key", Text.encode (Digest.Sha256.hexOfText (token.value.getD ""))),
         ("token_value", Text.encode (token.value.getD ""))]
  /-- Each publication has a creation of its own, in the same round. -/
  apart : ∀ passage ∈ passages, (publishing passage.acts).Sublist passage.supplies
  once : ∀ id, (passages.flatMap (publishing ·.acts)).countP (opens id) ≤
    (passages.flatMap (created ·.acts)).countP (·.id = id)

theorem publishing_flatMap_sublist (passages : List Passage) :
    (passages.flatMap (publishing ·.acts)).Sublist (passages.flatMap Passage.supplies) := by
  induction passages with
  | nil => exact .refl []
  | cons passage later ih =>
      exact (publishing_sublist passage.kept).append ih

theorem countP_flatMap_supplies (passages : List Passage) (id : String) :
    (passages.flatMap Passage.supplies).countP (opens id) =
      (passages.flatMap (created ·.acts)).countP (·.id = id) := by
  induction passages with
  | nil => rfl
  | cons passage later ih =>
      simp only [List.flatMap_cons, List.countP_append, passage.countP_supplies, ih]

/-- Whatever the rounds of a run are answered, as long as tokens come with an identity, only the
keys to a token that was created and then recorded in the same round are handed on, and once. -/
theorem handover_recorded_once (passages : List Passage)
    (named : ∀ passage ∈ passages, ∀ token ∈ created passage.acts, token.id ≠ "") :
    Handover passages where
  recorded passage member after act before details split publishes := by
    obtain ⟨token, recorded, rfl⟩ :=
      publication_recorded passage.kept (named passage member) split publishes
    exact ⟨token, recorded, entries_detailsOf passage.resource token⟩
  apart passage _ := publishing_sublist passage.kept
  once id := by
    rw [← countP_flatMap_supplies]
    exact (publishing_flatMap_sublist passages).countP_le

def Passage.obliged (epoch : Int) (fresh : Token) (resource : Credentials) : Passage where
  options := habits
  resource := resource
  moments := rehearsal epoch (obliging none fresh) habits resource
  rest := some (.done (ending epoch (obliging none fresh) habits resource).1
    (ending epoch (obliging none fresh) habits resource).2)
  reached := reaches_rehearsal epoch (obliging none fresh) habits resource

/-- A token is issued, and another one where the one before it is gone. -/
def reissuance : List Passage :=
  [.obliged 1717200000 (tokenNamed "first") applicant,
   .obliged 1717200100 (tokenNamed "second") bereft]

theorem handover_recorded_once_reissued :
    reissuance.flatMap (publishing ·.acts) =
        [detailsOf applicant (tokenNamed "first"), detailsOf bereft (tokenNamed "second")] ∧
      Handover reissuance := by
  have hnamed : ∀ passage ∈ reissuance, ∀ token ∈ created passage.acts, token.id ≠ "" := by
    decide +kernel
  exact ⟨by decide +kernel, handover_recorded_once reissuance hnamed⟩

end BucketKeys.Issuance
