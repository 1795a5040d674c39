import BucketKeys.Proofs.Issuance.Turns

/-!
What a pass has seen and done by the time it is at a stage.
-/

namespace BucketKeys.Issuance

open TokenApi

variable {resource : Credentials} {acts : List Act}

namespace Stage

/-- The pass has seen that no token belongs to the resource, or has since got one. -/
def seenVacant (resource : Credentials) : Stage → Bool
  | start => false
  | present => false
  | revoked => false
  | released => false
  | spent => false
  | connected => resource.externalName?.isNone
  | _ => true

theorem seenVacant_of_isVacant {stage : Stage} (hvacant : stage.isVacant resource = true) :
    stage.seenVacant resource = true := by
  cases stage <;> simp_all [isVacant, seenVacant]

theorem seenVacant_of_isHeld {stage : Stage} (hisHeld : stage.isHeld resource = true) :
    stage.seenVacant resource = true := by
  cases stage <;> simp_all [Stage.isHeld, isVacant, seenVacant]

end Stage

theorem found_cons (act : Act) (before : List Act) :
    found (act :: before) = (found? act).toList ++ found before := by
  simp only [found, List.filterMap_cons]
  cases found? act <;> rfl

theorem missing_cons (act : Act) (before : List Act) :
    missing (act :: before) = (missing? act).toList ++ missing before := by
  simp only [missing, List.filterMap_cons]
  cases missing? act <;> rfl

theorem mem_missing_append {act : Act} {after before : List Act} {id : String}
    (hmember : id ∈ missing before) : id ∈ missing (after ++ act :: before) := by
  obtain ⟨look, hseen, hsame⟩ := List.mem_filterMap.mp hmember
  exact List.mem_filterMap.mpr
    ⟨look, List.mem_append_right after (List.mem_cons_of_mem act hseen), hsame⟩

theorem created_cons (act : Act) (before : List Act) :
    created (act :: before) = (created? act).toList ++ created before := by
  simp only [created, List.filterMap_cons]
  cases created? act <;> rfl

theorem revoking_cons (act : Act) (before : List Act) :
    revoking (act :: before) = (revoking? act).toList ++ revoking before := by
  simp only [revoking, List.filterMap_cons]
  cases revoking? act <;> rfl

theorem accepted_cons (act : Act) (before : List Act) :
    accepted (act :: before) = (accepted? act).toList ++ accepted before := by
  simp only [accepted, List.filterMap_cons]
  cases accepted? act <;> rfl

theorem open_of_seenVacant (hkept : (protocol resource).Kept .start acts)
    (hvacant : ((protocol resource).stageAfter .start acts).seenVacant resource = true) :
    resource.Open := by
  refine stage_invariant (fun stage _ => stage ≠ .start → stage ≠ .released → stage ≠ .spent →
    resource.Open) ?_ ?_ hkept ?_ ?_ ?_
  · exact fun hstart => absurd rfl hstart
  · intro stage act last before hturn hknown
    cases hturn with
    | idle stage idle => exact hknown
    | authenticated hadmitted => exact fun _ _ _ => hadmitted
    | found hadmitted | missing hadmitted | created hadmitted | revoked hadmitted =>
        exact fun _ _ _ => hadmitted
    | held hlive hobserved copy =>
        intro _ _ _
        refine hknown ?_ ?_ ?_ <;> rintro rfl <;> cases hobserved
    | announcing hlive hprepared now =>
        intro _ _ _
        have hobserved := Stage.seenVacant_of_isHeld hprepared
        refine hknown ?_ ?_ ?_ <;> rintro rfl <;> cases hobserved
    | authentication => exact fun hstart => absurd rfl hstart
    | released => exact fun _ released => absurd rfl released
    | spent => exact fun _ _ spent => absurd rfl spent
    | _ => exact fun _ _ _ => hknown (by simp) (by simp) (by simp)
  all_goals
    intro stage
    rw [stage] at hvacant
    cases hvacant

theorem found_of_present (hkept : (protocol resource).Kept .start acts)
    (hpresent : (protocol resource).stageAfter .start acts = .present) :
    ∃ id, resource.externalName? = some id ∧ id ∈ found acts := by
  refine stage_invariant (fun stage acts => stage = .present →
    ∃ id, resource.externalName? = some id ∧ id ∈ found acts) ?_ ?_ hkept hpresent
  · intro hsame
    cases hsame
  · intro stage act last before hturn hknown hpresent
    have hcarried (hwas : stage = .present) :
        ∃ id, resource.externalName? = some id ∧ id ∈ found (act :: before) := by
      obtain ⟨id, hname, hseen⟩ := hknown hwas
      exact ⟨id, hname, found_cons act before ▸ List.mem_append_right _ hseen⟩
    cases hturn with
    | idle stage idle => exact hcarried hpresent
    | found hadmitted hname token => exact ⟨_, hname, List.mem_cons_self⟩
    | kept hlive copy => exact hcarried rfl
    | _ => cases hpresent

/-- No token is seen to belong to the resource only if there is none under its name. -/
theorem missing_of_seenVacant (hkept : (protocol resource).Kept .start acts)
    (hvacant : ((protocol resource).stageAfter .start acts).seenVacant resource = true)
    {id : String}
    (hname : resource.externalName? = some id) : id ∈ missing acts := by
  refine stage_invariant (fun stage acts => stage.seenVacant resource = true →
    id ∈ missing acts) ?_ ?_ hkept hvacant
  · intro hsame
    cases hsame
  · intro stage act last before hturn hknown hvacant
    have hcarried (hwas : stage.seenVacant resource = true) : id ∈ missing (act :: before) :=
      missing_cons act before ▸ List.mem_append_right _ (hknown hwas)
    cases hturn with
    | idle stage idle => exact hcarried hvacant
    | authenticated hadmitted apiToken answer =>
        simp [Stage.seenVacant, hname] at hvacant
    | missing hadmitted hbound hgone =>
        cases hbound.symm.trans hname
        simp [missing_cons, missing?, hgone]
    | held hlive hobserved copy => exact hcarried (Stage.seenVacant_of_isVacant hobserved)
    | announcing hlive hprepared now => exact hcarried (Stage.seenVacant_of_isHeld hprepared)
    | announced | chosen | unlisted | created | refused | failing | failed | recording | recorded
    | unrecorded | delivered => exact hcarried rfl
    | _ => cases hvacant

theorem externalName?_of_missing (hkept : (protocol resource).Kept .start acts) {id : String}
    (hmember : id ∈ missing acts) : resource.externalName? = some id := by
  induction acts with
  | nil => cases hmember
  | cons act before ih =>
      rw [missing_cons] at hmember
      rcases List.mem_append.mp hmember with hfresh | hknown
      · have hturn := turn_of_permitted hkept.2
        generalize (protocol resource).stageAfter .start before = stage at hturn
        generalize (protocol resource).next stage act = last at hturn
        cases hturn with
        | missing hadmitted hname hgone =>
            simp only [missing?, hgone, if_true, Option.mem_toList] at hfresh
            cases hfresh
            exact hname
        | idle stage idle => cases idle <;> cases hfresh
        | spent hpermitted hfailed =>
            cases hfailed with
            | unseen id hunclear => simp [missing?, hunclear] at hfresh
            | _ => cases hfresh
        | _ => cases hfresh
      · exact ih hkept.1 hknown

theorem Act.Idle.created? {act : Act} (hidle : act.Idle) : created? act = none := by
  cases hidle <;> rfl

theorem Act.Failed.created? {act : Act} (hfailed : act.Failed) : created? act = none := by
  cases hfailed <;> rfl

theorem Turn.created?_of_spent {stage : Stage} {act : Act}
    (hturn : Turn resource stage act .spent) : Issuance.created? act = none := by
  cases hturn with
  | idle stage idle => exact idle.created?
  | spent hpermitted hfailed => exact hfailed.created?

theorem Turn.creation {stage last : Stage} {act : Act} (hturn : Turn resource stage act last)
    {token : Token} (hcreates : Issuance.created? act = some token) :
    resource.isDeleting = false ∧ ∃ groups, stage = .chosen groups := by
  cases hturn with
  | created hadmitted hlive groups token => exact ⟨hlive, groups, rfl⟩
  | idle stage idle =>
      rw [idle.created?] at hcreates
      cases hcreates
  | spent hpermitted hfailed =>
      rw [hfailed.created?] at hcreates
      cases hcreates
  | _ => cases hcreates

theorem Stage.empty_of_isVacant {stage : Stage} (hvacant : stage.isVacant resource = true) :
    stage ≠ .spent ∧ stage.token? = none := by
  cases stage <;> simp_all [isVacant, Stage.token?]

theorem Stage.empty_of_isHeld {stage : Stage} (hisHeld : stage.isHeld resource = true) :
    stage ≠ .spent ∧ stage.token? = none := by
  cases stage <;> simp_all [Stage.isHeld, isVacant, Stage.token?]

theorem Turn.token? {stage last : Stage} {act : Act} (hturn : Turn resource stage act last)
    (hrunning : last ≠ .spent) :
    stage ≠ .spent ∧
      last.token?.toList = (Issuance.created? act).toList ++ stage.token?.toList := by
  cases hturn with
  | idle stage idle =>
      rw [idle.created?]
      exact ⟨hrunning, rfl⟩
  | spent => exact absurd rfl hrunning
  | held hlive hvacant copy =>
      obtain ⟨hrunning, hnone⟩ := Stage.empty_of_isVacant hvacant
      exact ⟨hrunning, hnone ▸ rfl⟩
  | released hdeleting hcustody copy =>
      cases hcustody with
      | taken hlive => simp [hdeleting] at hlive
      | orphaned => exact ⟨by rintro ⟨⟩, rfl⟩
      | released hdeleting hgone =>
          obtain ⟨hrunning, hnone⟩ := Stage.empty_of_isVacant hgone
          exact ⟨hrunning, hnone ▸ rfl⟩
  | announcing hlive hprepared now =>
      obtain ⟨hrunning, hnone⟩ := Stage.empty_of_isHeld hprepared
      exact ⟨hrunning, hnone ▸ rfl⟩
  | _ => exact ⟨by rintro ⟨⟩, rfl⟩

/-- A pass creates one token at most, and holds it until it is spent. -/
theorem created_of_kept (hkept : (protocol resource).Kept .start acts) :
    (created acts).length ≤ 1 ∧ (((protocol resource).stageAfter .start acts) ≠ .spent →
      created acts = ((protocol resource).stageAfter .start acts).token?.toList) := by
  refine stage_invariant (fun stage acts => (created acts).length ≤ 1 ∧
    (stage ≠ .spent → created acts = stage.token?.toList)) ?_ ?_ hkept
  · exact ⟨Nat.zero_le 1, fun _ => rfl⟩
  · intro stage act last before hturn hknown
    -- The count at a spent stage follows from the one at the stage before it.
    have hheld (hrunning : last ≠ .spent) : created (act :: before) = last.token?.toList := by
      obtain ⟨hearlier, htoken⟩ := hturn.token? hrunning
      rw [created_cons, hknown.2 hearlier, htoken]
    refine ⟨?_, hheld⟩
    by_cases hrunning : last = .spent
    · subst hrunning
      rw [created_cons, hturn.created?_of_spent]
      exact hknown.1
    · rw [hheld hrunning]
      cases last.token? <;> simp

theorem created_of_accepted (hkept : (protocol resource).Kept .start acts)
    {details : ConnectionDetails} (hmember : details ∈ accepted acts) :
    ∃ token ∈ created acts, details = detailsOf resource token := by
  induction acts with
  | nil => cases hmember
  | cons act before ih =>
      rw [created_cons]
      rw [accepted_cons] at hmember
      rcases List.mem_append.mp hmember with hfresh | hknown
      · have hturn := turn_of_permitted hkept.2
        generalize hhere : (protocol resource).stageAfter .start before = stage at hturn
        generalize (protocol resource).next stage act = last at hturn
        cases hturn with
        | delivered hlive token copy =>
            have hrunning : (protocol resource).stageAfter .start before ≠ .spent := by
              rw [hhere]
              intro hsame
              cases hsame
            have hheld := (created_of_kept hkept.1).2 hrunning
            rw [hhere] at hheld
            refine ⟨token, ?_, List.mem_singleton.mp hfresh⟩
            rw [hheld]
            exact List.mem_cons_self
        | idle stage idle => cases idle <;> cases hfresh
        | spent hpermitted hfailed => cases hfailed <;> cases hfresh
        | _ => cases hfresh
      · obtain ⟨token, hmember, hsame⟩ := ih hkept.1 hknown
        exact ⟨token, List.mem_append_right _ hmember, hsame⟩

theorem missing_of_created (hkept : (protocol resource).Kept .start acts)
    (hcreates : created acts ≠ []) {id : String} (hname : resource.externalName? = some id) :
    id ∈ missing acts := by
  induction acts with
  | nil => exact absurd rfl hcreates
  | cons act before ih =>
      rw [missing_cons]
      refine List.mem_append_right _ ?_
      cases hfresh : created? act with
      | none =>
          rw [created_cons, hfresh] at hcreates
          exact ih hkept.1 hcreates
      | some token =>
          obtain ⟨-, groups, hhere⟩ := (turn_of_permitted hkept.2).creation hfresh
          refine missing_of_seenVacant hkept.1 ?_ hname
          rw [hhere]
          rfl

theorem created_of_deleting (hdeleting : resource.isDeleting = true)
    (hkept : (protocol resource).Kept .start acts) : created acts = [] := by
  induction acts with
  | nil => rfl
  | cons act before ih =>
      rw [created_cons, ih hkept.1]
      cases hfresh : created? act with
      | none => rfl
      | some token =>
          have hlive := ((turn_of_permitted hkept.2).creation hfresh).1
          simp [hdeleting] at hlive

theorem accepted_of_delivered (hkept : (protocol resource).Kept .start acts) {token : Token}
    (hdelivered : (protocol resource).stageAfter .start acts = .delivered token) :
    detailsOf resource token ∈ accepted acts := by
  refine stage_invariant (fun stage acts => stage = .delivered token →
    detailsOf resource token ∈ accepted acts) ?_ ?_ hkept hdelivered
  · intro hsame
    cases hsame
  · intro stage act last before hturn hknown hdelivered
    cases hturn with
    | idle stage idle =>
        rw [accepted_cons]
        exact List.mem_append_right _ (hknown hdelivered)
    | delivered hlive token copy =>
        cases hdelivered
        exact List.mem_cons_self
    | _ => cases hdelivered

theorem accepted_of_complete (hkept : (protocol resource).Kept .start acts)
    (hcomplete : ((protocol resource).stageAfter .start acts).Complete resource) {token : Token}
    (hmember : token ∈ created acts) : detailsOf resource token ∈ accepted acts := by
  have hheld := (created_of_kept hkept).2
  generalize hhere : (protocol resource).stageAfter .start acts = stage at hheld hcomplete
  cases stage with
  | delivered other =>
      rw [hheld (by rintro ⟨⟩)] at hmember
      rw [List.mem_singleton.mp hmember]
      exact accepted_of_delivered hkept hhere
  | present | start | connected | vacant | revoked | released =>
      rw [hheld (by rintro ⟨⟩)] at hmember
      cases hmember
  | _ => exact hcomplete.elim

end BucketKeys.Issuance
