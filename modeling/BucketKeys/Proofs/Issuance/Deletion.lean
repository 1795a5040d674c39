import BucketKeys.Proofs.Issuance.Conformance
import BucketKeys.Proofs.Issuance.Knowledge
import BucketKeys.Proofs.Issuance.Rehearsal

/-!
What a round does to a resource that is being deleted, and what it leaves to one that is not.
-/

namespace BucketKeys.Issuance

open Bookkeeping TokenApi

variable {resource : Credentials} {acts : List Act}

/-- What a round does at most to a resource that is being deleted. The acts are listed with the
last of them first. -/
structure Parting (resource : Credentials) (acts : List Act) : Prop where
  noCreation : ∀ act ∈ acts, ∀ request, act.call? ≠ some (.remote (.createToken request))
  noPublication : ∀ act ∈ acts, ∀ copy details, act.call? ≠ some (.publish copy details)
  noAnnotation : ∀ act ∈ acts, ∀ copy changes, act.call? ≠ some (.updateAnnotations copy changes)
  /-- Neither the token service nor anything about the credentials for it is asked. -/
  orphaned : resource.spec.deletionPolicy = .orphan →
    ∀ act ∈ acts, ∀ call, act.call? ≠ some (.remote call)
  revokedOnce : (revoking acts).length ≤ 1
  revokedOwn : ∀ after act before id, acts = after ++ act :: before → revoking? act = some id →
    resource.externalName? = some id ∧ id ∈ found before
  finalized : ∀ after act before finalizers, acts = after ++ act :: before →
    finalizing? act = some finalizers →
      finalizers = resource.finalizers.filter (· != finalizer) ∧ revoking acts = [] ∧
        (resource.spec.deletionPolicy = .orphan ∨ resource.externalName? = none ∨
          ∃ id, resource.externalName? = some id ∧ id ∈ missing before)

/-- What a round never does to a resource that is not being deleted. -/
structure Upkeep (resource : Credentials) (acts : List Act) : Prop where
  noRevocation : revoking acts = []
  finalizers : ∀ act ∈ acts, ∀ finalizers, finalizing? act = some finalizers →
    ∀ name ∈ resource.finalizers, name ∈ finalizers

theorem call?_of_revoking? {act : Act} {id : String} (hrevokes : revoking? act = some id) :
    act.call? = some (.remote (.deleteToken id)) := by
  unfold revoking? at hrevokes
  split at hrevokes
  · cases hrevokes
    assumption
  · cases hrevokes

theorem call?_of_finalizing? {act : Act} {finalizers : List String}
    (hwrites : finalizing? act = some finalizers) :
    ∃ copy, act.call? = some (.updateFinalizers copy finalizers) := by
  unfold finalizing? at hwrites
  split at hwrites
  · cases hwrites
    exact ⟨_, by assumption⟩
  · cases hwrites

theorem kept_before (hkept : (protocol resource).Kept .start acts) {act : Act}
    (hmember : act ∈ acts)
    {call : Pass.Call interface} (hput : act.call? = some call) :
    ∃ stage, permits resource stage call := by
  obtain ⟨after, before, rfl⟩ := List.append_of_mem hmember
  exact ⟨_, (hkept.permitted hput).2⟩

/-- A token is revoked, and a resource released, at most at the end of a deletion. -/
def Stage.IsClosed (stage : Stage) : Prop :=
  stage = .revoked ∨ stage = .released ∨ stage = .spent

theorem not_closed_of_closing {stage : Stage} (hdeleting : resource.isDeleting = true)
    {call : Pass.Call interface} (hpermitted : permits resource stage call)
    (hclosing : (∃ id, call = .remote (.deleteToken id)) ∨
      ∃ copy finalizers, call = .updateFinalizers copy finalizers) : ¬ stage.IsClosed := by
  unfold Stage.IsClosed
  rcases hclosing with ⟨id, rfl⟩ | ⟨copy, finalizers, rfl⟩
  · obtain ⟨-, hinquiry⟩ := hpermitted
    cases hinquiry with
    | deleteToken => simp
  · cases hpermitted with
    | taken hlive => simp [hdeleting] at hlive
    | orphaned => simp
    | released hdeleting hgone =>
        rintro (rfl | rfl | rfl) <;> cases hgone

theorem Turn.closing {stage last : Stage} {act : Act} (hturn : Turn resource stage act last)
    (hdeleting : resource.isDeleting = true)
    (hcloses : revoking? act ≠ none ∨ finalizing? act ≠ none) : last.IsClosed := by
  cases hturn with
  | idle stage idle =>
      cases idle with
      | _ => exact absurd hcloses (by rintro (hother | hother) <;> exact hother rfl)
  | spent => exact .inr (.inr rfl)
  | revoked => exact .inl rfl
  | released => exact .inr (.inl rfl)
  | held hlive | kept hlive => simp [hdeleting] at hlive
  | _ => exact absurd hcloses (by rintro (hother | hother) <;> exact hother rfl)

theorem Turn.closed {stage last : Stage} {act : Act} (hturn : Turn resource stage act last)
    (hdeleting : resource.isDeleting = true) (hclosed : stage.IsClosed) : last.IsClosed := by
  cases hturn with
  | idle stage idle => exact hclosed
  | spent => exact .inr (.inr rfl)
  | revoked => exact .inl rfl
  | released => exact .inr (.inl rfl)
  | held hlive | kept hlive | announcing hlive => simp [hdeleting] at hlive
  | _ => rcases hclosed with hother | hother | hother <;> cases hother

theorem closed_of_closing (hdeleting : resource.isDeleting = true)
    (hkept : (protocol resource).Kept .start acts)
    (hclosing : ∃ act ∈ acts, revoking? act ≠ none ∨ finalizing? act ≠ none) :
    ((protocol resource).stageAfter .start acts).IsClosed := by
  refine stage_invariant (fun stage acts =>
    (∃ act ∈ acts, revoking? act ≠ none ∨ finalizing? act ≠ none) → stage.IsClosed)
    ?_ ?_ hkept hclosing
  · intro hknown
    obtain ⟨act, hmember, -⟩ := hknown
    cases hmember
  · intro stage act last before hturn hknown hknown
    obtain ⟨other, hmember, hcloses⟩ := hknown
    rcases List.mem_cons.mp hmember with rfl | hmember
    · exact hturn.closing hdeleting hcloses
    · exact hturn.closed hdeleting (hknown ⟨other, hmember, hcloses⟩)

theorem closing_at_most_once (hdeleting : resource.isDeleting = true) {act : Act}
    (hkept : (protocol resource).Kept .start (act :: acts))
    (hcloses : revoking? act ≠ none ∨ finalizing? act ≠ none) :
    ∀ other ∈ acts, revoking? other = none ∧ finalizing? other = none := by
  have hnotClosed : ¬ ((protocol resource).stageAfter .start acts).IsClosed := by
    rcases hcloses with hrevokes | hwrites
    · obtain ⟨id, hrevokes⟩ := Option.ne_none_iff_exists'.mp hrevokes
      have hput := call?_of_revoking? hrevokes
      exact not_closed_of_closing hdeleting (hkept.2 _ hput) (.inl ⟨id, rfl⟩)
    · obtain ⟨finalizers, hwrites⟩ := Option.ne_none_iff_exists'.mp hwrites
      obtain ⟨copy, hput⟩ := call?_of_finalizing? hwrites
      exact not_closed_of_closing hdeleting (hkept.2 _ hput) (.inr ⟨copy, finalizers, rfl⟩)
  intro other hmember
  refine ⟨?_, ?_⟩
  · cases hrevokes : revoking? other with
    | none => rfl
    | some id =>
        have hclosing : revoking? other ≠ none ∨ finalizing? other ≠ none := by simp [hrevokes]
        exact absurd (closed_of_closing hdeleting hkept.1 ⟨other, hmember, hclosing⟩) hnotClosed
  · cases hwrites : finalizing? other with
    | none => rfl
    | some finalizers =>
        have hclosing : revoking? other ≠ none ∨ finalizing? other ≠ none := by simp [hwrites]
        exact absurd (closed_of_closing hdeleting hkept.1 ⟨other, hmember, hclosing⟩) hnotClosed

theorem revoking_of_forall (hnone : ∀ act ∈ acts, revoking? act = none) : revoking acts = [] :=
  List.filterMap_eq_nil_iff.mpr hnone

theorem revokedOnce (hdeleting : resource.isDeleting = true)
    (hkept : (protocol resource).Kept .start acts) : (revoking acts).length ≤ 1 := by
  induction acts with
  | nil => simp [revoking]
  | cons act before ih =>
      rw [revoking_cons]
      cases hrevokes : revoking? act with
      | none => simpa using ih hkept.1
      | some id =>
          have hothers := closing_at_most_once hdeleting hkept (.inl (by simp [hrevokes]))
          rw [revoking_of_forall fun other hmember => (hothers other hmember).1]
          simp

theorem revoking_of_finalizing (hdeleting : resource.isDeleting = true)
    (hkept : (protocol resource).Kept .start acts)
    (hwrites : ∃ act ∈ acts, finalizing? act ≠ none) : revoking acts = [] := by
  induction acts with
  | nil => rfl
  | cons act before ih =>
      obtain ⟨other, hmember, hwrites⟩ := hwrites
      have hrevokesNot : revoking? act = none := by
        cases hrevokes : revoking? act with
        | none => rfl
        | some id =>
            have hothers := closing_at_most_once hdeleting hkept (.inl (by simp [hrevokes]))
            rcases List.mem_cons.mp hmember with rfl | hmember
            · obtain ⟨finalizers, hwrites⟩ := Option.ne_none_iff_exists'.mp hwrites
              obtain ⟨copy, hput⟩ := call?_of_finalizing? hwrites
              cases hput.symm.trans (call?_of_revoking? hrevokes)
            · exact absurd (hothers other hmember).2 hwrites
      rw [revoking_cons, hrevokesNot]
      rcases List.mem_cons.mp hmember with rfl | hmember
      · have hothers := closing_at_most_once hdeleting hkept (.inr hwrites)
        exact revoking_of_forall fun other hmember => (hothers other hmember).1
      · exact ih hkept.1 ⟨other, hmember, hwrites⟩

theorem parting (hdeleting : resource.isDeleting = true)
    (hkept : (protocol resource).Kept .start acts) : Parting resource acts where
  noCreation act hmember request put := by
    obtain ⟨stage, -, hinquiry⟩ := kept_before hkept hmember put
    cases hinquiry with
    | createToken hlive => simp [hdeleting] at hlive
  noPublication act hmember copy details put := by
    obtain ⟨stage, hlive, -⟩ := kept_before hkept hmember put
    simp [hdeleting] at hlive
  noAnnotation act hmember copy changes put := by
    obtain ⟨stage, hlive, -⟩ := kept_before hkept hmember put
    simp [hdeleting] at hlive
  orphaned hpolicy act hmember call put := by
    obtain ⟨stage, hadmitted, -⟩ := kept_before hkept hmember put
    have other := hadmitted.2.1 hdeleting
    rw [hpolicy] at other
    cases other
  revokedOnce := revokedOnce hdeleting hkept
  revokedOwn after act before id hsplit revokes := by
    rw [hsplit] at hkept
    obtain ⟨hearlier, -, hinquiry⟩ := hkept.permitted (call?_of_revoking? revokes)
    generalize stage : (protocol resource).stageAfter .start before = here at hinquiry
    cases hinquiry with
    | deleteToken hdeleting hname =>
        obtain ⟨other, hsame, hseen⟩ := found_of_present hearlier stage
        cases hname.symm.trans hsame
        exact ⟨hname, hseen⟩
  finalized after act before finalizers hsplit writes := by
    obtain ⟨copy, put⟩ := call?_of_finalizing? writes
    have none : revoking acts = [] := by
      refine revoking_of_finalizing hdeleting hkept ⟨act, ?_, by simp [writes]⟩
      rw [hsplit]
      exact List.mem_append_right after List.mem_cons_self
    rw [hsplit] at hkept
    obtain ⟨hearlier, hcustody⟩ := hkept.permitted put
    generalize stage : (protocol resource).stageAfter .start before = here at hcustody
    cases hcustody with
    | taken hlive => simp [hdeleting] at hlive
    | orphaned hdeleting hpolicy => exact ⟨rfl, none, .inl hpolicy⟩
    | released hdeleting hgone =>
        refine ⟨rfl, none, .inr ?_⟩
        cases hname : resource.externalName? with
        | none => exact .inl rfl
        | some id =>
            have hvacant := Stage.seenVacant_of_isVacant hgone
            rw [← stage] at hvacant
            exact .inr ⟨id, rfl, missing_of_seenVacant hearlier hvacant hname⟩

theorem upkeep (hlive : resource.isDeleting = false)
    (hkept : (protocol resource).Kept .start acts) : Upkeep resource acts where
  noRevocation := by
    refine revoking_of_forall fun act hmember => ?_
    cases hrevokes : revoking? act with
    | none => rfl
    | some id =>
        obtain ⟨stage, -, hinquiry⟩ := kept_before hkept hmember (call?_of_revoking? hrevokes)
        cases hinquiry with
        | deleteToken hdeleting => simp [hlive] at hdeleting
  finalizers act hmember finalizers hwrites name hlisted := by
    obtain ⟨copy, hput⟩ := call?_of_finalizing? hwrites
    obtain ⟨stage, hcustody⟩ := kept_before hkept hmember hput
    cases hcustody with
    | taken hlive hmissing hobserved =>
        simp only [Credentials.finalizersWith, hmissing]
        exact List.mem_append_left _ hlisted
    | orphaned hdeleting | released hdeleting => simp [hlive] at hdeleting

/-- Whatever a round is answered, it treats a resource that is being deleted, and one that is not,
as it should. -/
theorem deletion_discipline (options : PassOptions) (resource : Credentials)
    {moments : List (Moment (Round.interface interface))}
    {rest : Option (Script (Round.interface interface) Credentials Round.Outcome)}
    (reached : (Round.run connector options resource).Reaches moments rest) :
    (resource.isDeleting = true → Parting resource (moments.filterMap Round.told)) ∧
      (resource.isDeleting = false → Upkeep resource (moments.filterMap Round.told)) := by
  have hkept := (Round.reaches_told (round_keeps resource options) reached).1
  exact ⟨fun hdeleting => parting hdeleting hkept, fun hlive => upkeep hlive hkept⟩

def departing : Credentials :=
  { applicant.setExternalName "token" with
    metadata :=
      { (applicant.setExternalName "token").metadata with
        deletionTimestamp := some ⟨1717200000, 0⟩
        finalizers := some [finalizer] } }

theorem deletion_discipline_departing :
    ∃ moments rest, (Round.run connector habits departing).Reaches moments rest ∧
      revoking (moments.filterMap Round.told) = ["token"] ∧
        Parting departing (moments.filterMap Round.told) := by
  have hreached := reaches_rehearsal 1717200000 (obliging (some (tokenNamed "token"))
    (tokenNamed "other")) habits departing
  exact ⟨_, _, hreached, by decide +kernel, (deletion_discipline habits departing hreached).1 rfl⟩

end BucketKeys.Issuance
