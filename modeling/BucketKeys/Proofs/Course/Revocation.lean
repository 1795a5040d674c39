import BucketKeys.Proofs.Course.Creation
import BucketKeys.Proofs.Course.Naming
import BucketKeys.Proofs.Course.Performance
import BucketKeys.Proofs.Course.Remote
import BucketKeys.Proofs.Issuance.Deletion

/-!
A resource is released only when every token that was ever recorded on it is gone. A token whose
creation was never recorded outlives the resource.
-/

namespace BucketKeys.Issuance

open Bookkeeping TokenApi

variable {edits : Credentials → Credentials → Prop} {start : Credentials} {state : State}
  {task : Option Task} {act : Act} {remote next : Remote}

/-- All recorded tokens but the one that the stored resource names are gone, and so are the tokens
that the present round did not find, unless it has created them since. -/
structure Accounted (state : State) (remote : Remote) : Prop where
  recorded : ∀ token ∈ created state.history, token.id ∈ state.names →
    state.stored.externalName? = some token.id ∨ token.id ∉ remote.live
  unfound : ∀ token ∈ created state.history, token.id ∈ missing state.present.acts →
    token.id ∉ remote.live ∨ token ∈ created state.present.acts

theorem eq_of_created {acts : List Act} (honce : (created acts).length ≤ 1) {token other : Token}
    (hmember : token ∈ created acts) (halso : other ∈ created acts) : token = other := by
  generalize created acts = tokens at honce hmember halso
  match tokens with
  | [] => cases hmember
  | [only] => rw [List.mem_singleton.mp hmember, List.mem_singleton.mp halso]
  | _ :: _ :: _ => simp at honce

namespace Accounted

theorem store (haccounted : Accounted state remote) (hnamed : Named state)
    (hkept : (protocol state.present.resource).Kept .start state.present.acts)
    {resource : Credentials} (hrenames : Renames state resource) :
    Accounted (state.store resource) remote where
  unfound := haccounted.unfound
  recorded token hcreates hmember := by
    by_cases hcurrent : resource.externalName? = some token.id
    · exact .inl hcurrent
    · have hrecorded : token.id ∈ state.names := by
        rcases List.mem_append.mp hmember with hfresh | hknown
        · exact absurd (Option.mem_toList.mp hfresh) hcurrent
        · exact hknown
      refine .inr ?_
      rcases haccounted.recorded token hcreates hrecorded with hbefore | hgone
      -- The name before is replaced by the one of a token of this round, which was created only
      -- because none was found under the name before.
      · rcases hrenames with hsame | ⟨latest, hfresh, hrenamed⟩
        · exact absurd (hsame.trans hbefore) hcurrent
        · have honly {other : Token} (halso : other ∈ created state.present.acts) :
              other.id ≠ token.id := by
            rintro hsame
            rw [eq_of_created (created_of_kept hkept).1 halso hfresh] at hsame
            exact hcurrent (hsame ▸ hrenamed)
          rcases hnamed.present with hfound | ⟨other, halso, hhere⟩
          · have habsent := missing_of_created hkept (List.ne_nil_of_mem hfresh) (hfound ▸ hbefore)
            rcases haccounted.unfound token hcreates habsent with hgone | halso
            · exact hgone
            · exact absurd rfl (honly halso)
          · exact absurd (Option.some.inj (hhere.symm.trans hbefore)) (honly halso)
      · exact hgone

theorem note (haccounted : Accounted state remote) (hnamed : Named state)
    (htruthful : remote.Truthful state.history) (hallowed : remote.Allows act)
    (hdrift : (remote.after act).Drifts next) : Accounted (state.note act) next where
  recorded token hcreates member := by
    rw [State.history_note, created_cons] at hcreates
    -- A token of the same name as one that was created before would not be fresh.
    obtain ⟨other, hknown, hsame⟩ := hnamed.origin _ member
    have hused := htruthful.used_of_created hknown
    rw [hsame] at hused
    rcases List.mem_append.mp hcreates with hfresh | hcreates
    · exact absurd hused (hallowed.fresh token (Option.mem_toList.mp hfresh)).2
    · rcases haccounted.recorded token hcreates member with hcurrent | hgone
      · exact .inl hcurrent
      · exact .inr (hallowed.gone hdrift hused hgone)
  unfound token hcreates member := by
    rw [State.history_note, created_cons] at hcreates
    rw [show (state.note act).present.acts = act :: state.present.acts from rfl, created_cons]
    rcases List.mem_append.mp hcreates with hfresh | hcreates
    · exact .inr (List.mem_append_left _ hfresh)
    · have hused := htruthful.used_of_created hcreates
      rw [show (state.note act).present.acts = act :: state.present.acts from rfl,
        missing_cons] at member
      rcases List.mem_append.mp member with habsent | member
      · exact .inl (hallowed.gone hdrift hused
          (hallowed.missing _ (Option.mem_toList.mp habsent)))
      · rcases haccounted.unfound token hcreates member with hgone | hcreates
        · exact .inl (hallowed.gone hdrift hused hgone)
        · exact .inr (List.mem_append_right _ hcreates)

theorem hear {last : Stage} (haccounted : Accounted state remote) (hnamed : Named state)
    (hkept : (protocol state.present.resource).Kept .start state.present.acts)
    (hturn : Turn state.present.resource state.present.stage act last)
    (htruthful : remote.Truthful state.history) (hallowed : remote.Allows act)
    (hdrift : (remote.after act).Drifts next) : Accounted (state.hear act) next := by
  rcases State.hear_cases hkept hturn with hsame | ⟨resource, hsame, hrenames⟩
  · rw [hsame]
    exact haccounted.note hnamed htruthful hallowed hdrift
  · rw [hsame]
    exact (haccounted.store hnamed hkept hrenames).note
        (hnamed.store hrenames) htruthful hallowed hdrift

end Accounted

theorem Course.accounted (hcourse : Course edits start state task)
    (hunbound : start.externalName? = none)
    (hexternalName : ∀ old new, edits old new → new.externalName? = old.externalName?)
    (htruthful : remote.Truthful state.history) : Accounted state remote := by
  refine hcourse.invariant (fun state => ∀ remote : Remote, remote.Truthful state.history →
    Accounted state remote) ?_ ?_ ?_ ?_ ?_ remote htruthful
  · exact fun _ _ => ⟨by rintro token ⟨⟩, by rintro token ⟨⟩⟩
  · intro state next task hcourse haccounted hchange remote htruthful
    have hnamed := hcourse.named hunbound hexternalName
    obtain ⟨resource, rfl, hrenames⟩ := hnamed.renames hexternalName hchange
    exact (haccounted remote htruthful).store hnamed hcourse.kept hrenames
  · exact fun haccounted remote htruthful =>
      ⟨(haccounted remote htruthful).recorded, by rintro token - ⟨⟩⟩
  · intro state task act hcourse haccounted hturn remote htruthful
    rw [State.history_hear] at htruthful
    obtain ⟨earlier, htruthful, hallowed, hdrift⟩ := htruthful
    have hnamed := hcourse.named hunbound hexternalName
    exact (haccounted earlier htruthful).hear hnamed hcourse.kept hturn htruthful hallowed hdrift
  · exact fun outcome haccounted remote htruthful =>
      ⟨(haccounted remote htruthful).recorded, (haccounted remote htruthful).unfound⟩

/-- The present round gives the resource up. -/
def Released (state : State) : Prop :=
  ∃ act ∈ state.present.acts, ∃ finalizers, finalizing? act = some finalizers ∧
    finalizer ∉ finalizers

/-- A resource whose token is to be revoked is given up only by a deletion that found no token under
its name. -/
theorem Released.vacant (hreleased : Released state)
    (hkept : (protocol state.present.resource).Kept .start state.present.acts)
    (hpolicy : state.present.resource.spec.deletionPolicy = .delete) :
    state.present.resource.isDeleting = true ∧
      ∀ id, state.present.resource.externalName? = some id → id ∈ missing state.present.acts := by
  obtain ⟨act, hmember, finalizers, hwrites, hlacks⟩ := hreleased
  obtain ⟨after, before, hsplit⟩ := List.append_of_mem hmember
  rw [hsplit] at hkept
  obtain ⟨copy, hput⟩ := call?_of_finalizing? hwrites
  obtain ⟨hearlier, hcustody⟩ := hkept.permitted hput
  generalize hhere : (protocol state.present.resource).stageAfter .start before = stage at hcustody
  cases hcustody with
  | taken hlive hmissing hobserved =>
      exact absurd state.present.resource.finalizer_mem_finalizersWith hlacks
  | orphaned hdeleting horphan =>
      rw [hpolicy] at horphan
      cases horphan
  | released hdeleting hgone =>
      refine ⟨hdeleting, fun id hname => ?_⟩
      have habsent : id ∈ missing before := by
        refine missing_of_seenVacant hearlier ?_ hname
        rw [hhere]
        exact Stage.seenVacant_of_isVacant hgone
      rw [hsplit]
      exact mem_missing_append habsent

theorem Released.gone (hreleased : Released state) (hcourse : Course edits start state task)
    (hunbound : start.externalName? = none)
    (hexternalName : ∀ old new, edits old new → new.externalName? = old.externalName?)
    (hpolicy : state.present.resource.spec.deletionPolicy = .delete)
    (htruthful : remote.Truthful state.history) {token : Token}
    (hcreates : token ∈ created state.history)
    (hcurrent : state.stored.externalName? = some token.id) : token.id ∉ remote.live := by
  have hnamed := hcourse.named hunbound hexternalName
  have haccounted := hcourse.accounted hunbound hexternalName htruthful
  obtain ⟨hdeleting, habsent⟩ := hreleased.vacant hcourse.kept hpolicy
  have hfruitless := created_of_deleting hdeleting hcourse.kept
  rcases hnamed.present with hfound | ⟨other, hmember, -⟩
  · rcases haccounted.unfound token hcreates (habsent _ (hfound ▸ hcurrent)) with hgone | hmember
    · exact hgone
    · rw [hfruitless] at hmember
      cases hmember
  · rw [hfruitless] at hmember
    cases hmember

/-- All tokens but the one created last are gone. -/
def Superseded (state : State) (remote : Remote) : Prop :=
  ∀ token ∈ created state.history, latest? state.history ≠ some token → token.id ∉ remote.live

theorem Superseded.hear {last : Stage} (hsuperseded : Superseded state remote)
    (haccounted : Accounted state remote) (hcareful : Careful state)
    (hkept : (protocol state.present.resource).Kept .start state.present.acts)
    (hturn : Turn state.present.resource state.present.stage act last)
    (htruthful : remote.Truthful state.history) (hallowed : remote.Allows act)
    (hdrift : (remote.after act).Drifts next) : Superseded (state.hear act) next := by
  intro token hcreates hother
  rw [State.history_hear, created_cons] at hcreates
  rw [State.history_hear, latest?_cons] at hother
  cases hfresh : created? act with
  | none =>
      rw [hfresh] at hcreates hother
      exact hallowed.gone hdrift (htruthful.used_of_created hcreates)
        (hsuperseded token hcreates hother)
  | some newest =>
      rw [hfresh] at hcreates hother
      rcases List.mem_cons.mp hcreates with rfl | hcreates
      · exact absurd rfl hother
      · refine hallowed.gone hdrift (htruthful.used_of_created hcreates) ?_
        by_cases hlatest : latest? state.history = some token
        · have habsent := missing_of_creation hkept hturn hcareful.poised hfresh hlatest
          rcases haccounted.unfound token hcreates habsent with hgone | halso
          · exact hgone
          · obtain ⟨-, groups, hhere⟩ := hturn.creation hfresh
            have hrunning : state.present.stage ≠ .spent := by
              rw [hhere]
              intro hsame
              cases hsame
            rw [(created_of_kept hkept).2 hrunning, show
              (protocol state.present.resource).stageAfter .start state.present.acts = _ from hhere]
              at halso
            cases halso
        · exact hsuperseded token hcreates hlatest

def Remote.vacant : Remote := ⟨[], [], by rintro id ⟨⟩⟩

def Remote.bereft : Remote := ⟨["first"], [], by rintro id ⟨⟩⟩

end BucketKeys.Issuance
