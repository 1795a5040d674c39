import BucketKeys.Proofs.Course.Announcements
import BucketKeys.Proofs.Course.Basic
import BucketKeys.Proofs.Course.Bookkeeping

/-!
Where the external names of a stored resource come from.
-/

namespace BucketKeys.Issuance

open Bookkeeping TokenApi

variable {state : State} {act : Act} {changes : Dictionary (Option String)}

def Names (acts : List Act) (changes : Dictionary (Option String)) : Prop :=
  ∀ value, changes.get? externalNameKey = some value →
    ∃ token ∈ created acts, token.id ≠ "" ∧ value = some token.id

/-- All names of the stored resource are of tokens that were created for it, and its present name is
the one that the present round found or the one of a token that this round created. -/
structure Named (state : State) : Prop where
  origin : ∀ id ∈ state.names, ∃ token ∈ created state.history, token.id = id
  current : ∀ id, state.stored.externalName? = some id → id ∈ state.names
  late : ∀ changes, .annotations changes ∈ state.late → Names state.present.acts changes
  present : state.stored.externalName? = state.present.resource.externalName? ∨
    ∃ token ∈ created state.present.acts, state.stored.externalName? = some token.id

theorem mem_created_cons {acts : List Act} {token : Token} (hmember : token ∈ created acts) :
    token ∈ created (act :: acts) := by
  rw [created_cons]
  exact List.mem_append_right _ hmember

theorem Names.cons {acts : List Act} (hnames : Names acts changes) :
    Names (act :: acts) changes := by
  intro value hpresent
  obtain ⟨token, hmember, hnamed, hsame⟩ := hnames value hpresent
  exact ⟨token, mem_created_cons hmember, hnamed, hsame⟩

theorem Names.externalName? {acts : List Act} (hnames : Names acts changes) (stored : Credentials) :
    (stored.patchAnnotations changes).externalName? = stored.externalName? ∨
      ∃ token ∈ created acts,
        (stored.patchAnnotations changes).externalName? = some token.id := by
  cases hfound : changes.get? externalNameKey with
  | none => exact .inl (Credentials.externalName?_patchAnnotations_of_none hfound)
  | some value =>
      obtain ⟨token, hmember, hnamed, rfl⟩ := hnames value hfound
      exact .inr ⟨token, hmember, Credentials.externalName?_patchAnnotations_of_some hnamed hfound⟩

theorem Announcement.names {stage : Stage} {acts : List Act}
    (hannouncement : Announcement stage changes)
    (hheld : ∀ token, stage.token? = some token → token ∈ created acts) : Names acts changes := by
  cases hannouncement with
  | pending now =>
      intro value hpresent
      simp [pendingKey, externalNameKey] at hpresent
  | failed now =>
      intro value hpresent
      simp [failedKey, externalNameKey] at hpresent
  | succeeded token now =>
      -- An empty name is not recorded at all.
      intro value hpresent
      rw [get?_successAnnotations_externalName] at hpresent
      obtain ⟨name, hrecorded, rfl⟩ := Option.map_eq_some_iff.mp hpresent
      obtain ⟨hsame, hnamed⟩ := Option.filter_eq_some_iff.mp hrecorded
      cases hsame
      exact ⟨token, hheld token rfl, by simpa using hnamed, rfl⟩

def Renames (state : State) (resource : Credentials) : Prop :=
  resource.externalName? = state.stored.externalName? ∨
    ∃ token ∈ created state.present.acts, resource.externalName? = some token.id

theorem Write.renames {write : Write}
    (hnames : ∀ changes, write = .annotations changes → Names state.present.acts changes) :
    Renames state (write.apply state.stored) := by
  rcases write.annotations_or_same state.stored with ⟨changes, rfl⟩ | hsame
  · exact (hnames changes rfl).externalName? state.stored
  · exact .inl hsame.externalName?

namespace Named

theorem store (hnamed : Named state) {resource : Credentials} (hrenames : Renames state resource) :
    Named (state.store resource) where
  origin id member := by
    rcases List.mem_append.mp member with hfresh | hknown
    · have here : resource.externalName? = some id := Option.mem_toList.mp hfresh
      rcases hrenames with hsame | ⟨token, hcreates, hother⟩
      · exact hnamed.origin id (hnamed.current id (hsame ▸ here))
      · cases here.symm.trans hother
        exact ⟨token, State.mem_filterMap_history.mpr ⟨_, List.mem_cons_self, hcreates⟩, rfl⟩
    · exact hnamed.origin id hknown
  current id here := List.mem_append_left _ (Option.mem_toList.mpr here)
  late := hnamed.late
  present := by
    rcases hrenames with hsame | hother
    · rw [show (state.store resource).stored.externalName? = _ from hsame]
      exact hnamed.present
    · exact .inr hother

theorem note (hnamed : Named state)
    (hnames : ∀ changes, unsettled? act = some (.annotations changes) →
      Names state.present.acts changes) : Named (state.note act) where
  origin id member := by
    obtain ⟨token, hcreates, hsame⟩ := hnamed.origin id member
    exact ⟨token, mem_created_cons hcreates, hsame⟩
  current := hnamed.current
  late changes member := by
    rcases List.mem_append.mp member with hfresh | hknown
    · exact (hnames changes (Option.mem_toList.mp hfresh)).cons
    · exact (hnamed.late changes hknown).cons
  present := by
    rcases hnamed.present with hsame | ⟨token, hcreates, hhere⟩
    · exact .inl hsame
    · exact .inr ⟨token, mem_created_cons hcreates, hhere⟩

theorem renames {next : State} {edits : Credentials → Credentials → Prop} (hnamed : Named state)
    (hexternalName : ∀ old new, edits old new → new.externalName? = old.externalName?)
    (hchange : Change edits state next) :
    ∃ resource, next = state.store resource ∧ Renames state resource := by
  cases hchange with
  | lands hlate =>
      refine ⟨_, rfl, Write.renames ?_⟩
      intro changes hsame
      subst hsame
      exact hnamed.late changes hlate
  | edited hedit => exact ⟨_, rfl, .inl (hexternalName _ _ hedit)⟩

end Named

theorem names_of_turn {last : Stage}
    (hkept : (protocol state.present.resource).Kept .start state.present.acts)
    (hturn : Turn state.present.resource state.present.stage act last) (changes)
    (hwrites : written? act = some (.annotations changes) ∨
      unsettled? act = some (.annotations changes)) : Names state.present.acts changes := by
  refine (hturn.announcement hwrites).names fun token hheld => ?_
  have hrunning : state.present.stage ≠ .spent := by
    intro spent
    rw [spent] at hheld
    cases hheld
  rw [(created_of_kept hkept).2 hrunning, show
    ((protocol state.present.resource).stageAfter .start state.present.acts).token? = _ from hheld]
  exact List.mem_singleton.mpr rfl

theorem State.hear_cases {last : Stage}
    (hkept : (protocol state.present.resource).Kept .start state.present.acts)
    (hturn : Turn state.present.resource state.present.stage act last) :
    state.hear act = state.note act ∨
      ∃ resource, state.hear act = (state.store resource).note act ∧ Renames state resource := by
  unfold hear
  cases hwritten : written? act with
  | none => exact .inl rfl
  | some write =>
      refine .inr ⟨_, rfl, Write.renames ?_⟩
      intro changes hsame
      subst hsame
      exact names_of_turn hkept hturn changes (.inl hwritten)

theorem Named.hear {last : Stage} (hnamed : Named state)
    (hkept : (protocol state.present.resource).Kept .start state.present.acts)
    (hturn : Turn state.present.resource state.present.stage act last) :
    Named (state.hear act) := by
  have hunsettled := fun changes hunsettled => names_of_turn hkept hturn changes (.inr hunsettled)
  rcases State.hear_cases hkept hturn with hsame | ⟨resource, hsame, hrenames⟩
  · rw [hsame]
    exact hnamed.note hunsettled
  · rw [hsame]
    exact (hnamed.store hrenames).note hunsettled

theorem Course.named {edits : Credentials → Credentials → Prop} {start : Credentials}
    {task : Option Task} (hcourse : Course edits start state task)
    (hunbound : start.externalName? = none)
    (hexternalName : ∀ old new, edits old new → new.externalName? = old.externalName?) :
    Named state := by
  refine hcourse.invariant Named ?_ ?_ ?_ ?_ ?_
  · refine ⟨fun id hmember => ?_, fun id hhere => ?_, by rintro changes ⟨⟩, .inl rfl⟩
    · rw [show (State.initial start).names = [] by simp [State.initial, hunbound]] at hmember
      cases hmember
    · cases hunbound.symm.trans hhere
  · intro state next task hcourse hnamed hchange
    obtain ⟨resource, rfl, hrenames⟩ := hnamed.renames hexternalName hchange
    exact hnamed.store hrenames
  · exact fun hnamed => ⟨hnamed.origin, hnamed.current, by rintro changes ⟨⟩, .inl rfl⟩
  · exact fun hcourse hnamed hturn => hnamed.hear hcourse.kept hturn
  · exact fun outcome hnamed => ⟨hnamed.origin, hnamed.current, hnamed.late, hnamed.present⟩

end BucketKeys.Issuance
