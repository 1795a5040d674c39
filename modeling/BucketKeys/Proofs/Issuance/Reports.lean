import BucketKeys.Proofs.Issuance.Rehearsal
import BucketKeys.Proofs.Issuance.Tally
import BucketKeys.Proofs.Resource.Conditions
import BucketKeys.Proofs.Round.Ending

/-!
What a round says of itself in the status of its resource, next to what it did and how it ended.
-/

namespace BucketKeys.Issuance

open Bookkeeping TokenApi

/-- A copy that was to be written as the status, and whether it was. -/
def reporting? : Act → Option (Credentials × Bool)
  | .reported copy answer => some (copy, answer.isOk)
  | .lost (.updateStatus copy) => some (copy, false)
  | _ => none

def reports (acts : List Act) : List (Credentials × Bool) := acts.filterMap reporting?

variable {held resource : Credentials} {before : List Act} {options : PassOptions}

/-! The pass -/

/-- The ways in which a pass asks for another one, and what its last report has to say then. -/
inductive Exit (options : PassOptions) (accountId : String) :
    Tally → Credentials → Time.Span → Prop where
  | poll {token : Token} {copy : Credentials}
      (observed : copy.observed =
        { tokenId := some token.id
          status := token.status
          issuedOn := token.issuedOnText
          endpoint := some (accountId ++ ".r2.cloudflarestorage.com") })
      (ready : (copy.says? Condition.ready).map (·.1) = some "True" ↔
        token.status = none ∨ token.status = some "active") :
      Exit options accountId ⟨[token], [], [], ["poll"]⟩ copy options.pollInterval
  | created {token : Token} {copy : Credentials}
      (ready : copy.says? Condition.ready = some ("False", some "Creating", none)) :
      Exit options accountId ⟨[], [token], [], ["created"]⟩ copy options.shortWait
  | deleting {token : Token} {id : String} {copy : Credentials}
      (ready : copy.says? Condition.ready = some ("False", some "Deleting", none)) :
      Exit options accountId ⟨[token], [], [id], ["deleting"]⟩ copy options.shortWait

inductive Closing (options : PassOptions) (resource : Credentials) :
    List Act → Credentials → Except Fault Action → Prop where
  | requeued {acts : List Act} {held copy : Credentials} {after : Time.Span}
      {earlier : List (Credentials × Bool)} (last : reports acts = (copy, true) :: earlier)
      (synced : copy.says? Condition.synced = some ("True", some "ReconcileSuccess", none))
      (exit : Exit options resource.spec.forProvider.accountId (tally acts) copy after) :
      Closing options resource acts held (.ok (.requeue after))
  | awaiting (acts : List Act) (held : Credentials) :
      Closing options resource acts held (.ok .awaitChange)
  | failed (acts : List Act) (held : Credentials) {fault : Fault}
      (mendable : fault.isFatal = false) : Closing options resource acts held (.error fault)
  | refused (nameless : resource.name = "") :
      Closing options resource [] resource
        (.error (.notAManagedResource Kind.credentials.name "object has no name"))

theorem closes_after {work : Pass.Step interface α} {next : α → Pass.Step interface Action}
    (hquiet : (work held).Yields chronicle (Quiet before held) before)
    (hfollows : ∀ acts value, tally acts = tally before →
      (next value held).Yields chronicle (Closing options resource) acts) :
    Script.Yields chronicle (Closing options resource) ((work >>= next) held) before := by
  refine Work.yields_andThen hquiet ?_ ?_
  · rintro acts copy value ⟨hsame, rfl, -⟩
    exact hfollows acts value hsame
  · rintro acts copy fault ⟨-, -, hmendable⟩
    exact .failed _ _ hmendable

theorem finish_closes {reason : String} {after : Time.Span}
    (hexit : ∀ now, Exit options resource.spec.forProvider.accountId
      { tally before with requeued := reason :: (tally before).requeued }
      (held.setCondition (Condition.reconcileSuccess now)) after) :
    ((Pass.finish reason after : Pass.Step interface Action) held).Yields chronicle
      (Closing options resource) before := by
  refine Work.yields_bind.mpr (Work.yields_bind.mpr fun now _ => ?_)
  refine Work.yields_bind.mpr
      (Work.yields_held_then (Work.yields_ask_then fun answer hrelied => ?_))
  cases (answer : Except Fault Unit) with
  | ok done =>
      exact .requeued rfl (Credentials.says?_entered ..) (hexit now)
  | error fault =>
      have hown : isOfStore (.error fault) = true := hrelied
      exact .failed _ _ (mendable_of_isOfStore hown)

theorem endpoint_eq (accountId : String) :
    endpoint accountId = accountId ++ ".r2.cloudflarestorage.com" := by
  rw [endpoint, String.append_assoc]
  rfl

/-- The copy tells of the token as it was seen. -/
structure Shows (token : Token) (accountId : String) (copy : Credentials) : Prop where
  observed : copy.observed = observation token accountId
  ready : (copy.says? Condition.ready).map (·.1) = some "True" ↔
    token.status = none ∨ token.status = some "active"

theorem shows_sighted (held : Credentials) (token : Token) (accountId : String)
    (now : Time.Instant) :
    Shows token accountId
      ((held.setObservation (observation token accountId)).setCondition
        ((if token.isUsable then Condition.available else Condition.unavailable) now)) where
  observed := by simp
  ready := by
    have husable : token.isUsable = true ↔ token.status = none ∨ token.status = some "active" := by
      unfold Token.isUsable
      cases token.status with
      | none => simp
      | some status => simp
    rw [← husable]
    cases token.isUsable with
    | true =>
        have hsaid : (Credentials.setCondition (.available now)
            (held.setObservation (observation token accountId))).says? Condition.ready =
              some ("True", some "Available", none) := Credentials.says?_entered ..
        simp [hsaid]
    | false =>
        have hsaid : (Credentials.setCondition (.unavailable now)
            (held.setObservation (observation token accountId))).says? Condition.ready =
              some ("False", some "Unavailable", none) := Credentials.says?_entered ..
        simp [hsaid]

theorem Shows.setFinalizers {token : Token} {accountId : String} {copy : Credentials}
    (hshows : Shows token accountId copy) (finalizers : List String) :
    Shows token accountId (copy.setFinalizers finalizers) :=
  ⟨hshows.observed, hshows.ready⟩

theorem says?_reconcileSuccess (copy : Credentials) (now : Time.Instant) :
    (copy.setCondition (Condition.reconcileSuccess now)).says? Condition.ready =
      copy.says? Condition.ready := by
  refine Credentials.says?_setCondition_of_ne ?_ copy
  change Condition.synced ≠ Condition.ready
  decide

theorem Shows.poll {token : Token} {copy : Credentials} {accountId : String}
    (hshows : Shows token accountId copy) (now : Time.Instant) :
    Exit options accountId ⟨[token], [], [], ["poll"]⟩
      (copy.setCondition (Condition.reconcileSuccess now)) options.pollInterval := by
  refine .poll ?_ ?_
  · rw [Credentials.observed_setCondition, hshows.observed, observation, endpoint_eq]
  · rw [says?_reconcileSuccess]
    exact hshows.ready

theorem maintain_closes {token : Token} (hseen : tally before = ⟨[token], [], [], []⟩)
    (hshows : Shows token resource.spec.forProvider.accountId held) :
    ((Pass.maintain client options .current : Pass.Step interface Action) held).Yields chronicle
      (Closing options resource) before := by
  refine finish_closes fun now => ?_
  rw [hseen]
  exact hshows.poll now

theorem passDelete_closes {token : Token} {id : String} (hname : held.externalName? = some id)
    (hseen : tally before = ⟨[token], [], [], []⟩) :
    ((Pass.delete client options : Pass.Step interface Action) held).Yields chronicle
      (Closing options resource) before := by
  refine Work.yields_bind.mpr (Work.yields_bind.mpr fun now _ => ?_)
  refine Work.yields_andThen (yields_ofRemote delete_tally) ?_ ?_
  · rintro acts copy value ⟨rfl, -, hcounted⟩
    have hnamed : ((held.setCondition (Condition.deleting now)).externalName?).toList = [id] := by
      change held.externalName?.toList = [id]
      rw [hname]
      rfl
    have hrevoked : tally acts = ⟨[token], [], [id], []⟩ := by
      rw [hcounted, hnamed]
      exact congrArg (fun tally : Tally => { tally with revoking := [id] ++ tally.revoking }) hseen
    refine Work.yields_bind.mpr (finish_closes fun done => ?_)
    change Exit _ _ { tally acts with requeued := "deleting" :: (tally acts).requeued } _ _
    rw [hrevoked]
    refine .deleting ?_
    rw [says?_reconcileSuccess]
    exact Credentials.says?_entered ..
  · rintro acts copy fault ⟨-, hmendable, -⟩
    exact .failed _ _ hmendable

theorem refusal_closes {fault : Fault} (hmendable : fault.isFatal = false) (attempts : Nat) :
    ((do
        let failed := Time.Rfc3339.stamp (← Work.now)
        Work.modify (·.annotate failedKey failed)
        let _ ← (Pass.record attempts (.singleton failedKey (some failed))).attempt
        Work.fail fault : Pass.Step interface Action) held).Yields chronicle
      (Closing options resource) before := by
  refine Work.yields_bind.mpr fun now _ => ?_
  refine Work.yields_bind.mpr (Work.yields_bind.mpr (Work.yields_attempt.mpr
    ((recordFrom_quiet _ 1 _).imp ?_)))
  rintro acts copy result -
  exact .failed _ _ hmendable

theorem success_closes (token : Token) (details : ConnectionDetails)
    (hcreated : tally before = ⟨[], [token], [], []⟩)
    (hready : held.says? Condition.ready = some ("False", some "Creating", none)) :
    ((do
        Work.count .resourceCreated
        let succeeded := Time.Rfc3339.stamp (← Work.now)
        Work.modify (·.annotate succeededKey succeeded)
        let copy ← Work.held
        Pass.record options.recordAttempts
          (Pass.successAnnotations succeeded copy.externalName?)
        Pass.publishAny details
        Pass.finish "created" options.shortWait : Pass.Step interface Action) held).Yields
      chronicle (Closing options resource) before := by
  refine Work.yields_bind.mpr (Work.yields_bind.mpr fun now _ => ?_)
  refine Work.yields_bind.mpr (Work.yields_held_then ?_)
  refine closes_after (recordFrom_quiet _ 1 _) fun _ _ hrecorded => ?_
  refine closes_after (publishAny_quiet details) fun acts _ hpublished => ?_
  refine finish_closes fun done => ?_
  have hcounted : tally acts = ⟨[], [token], [], []⟩ :=
    hpublished.trans (hrecorded.trans hcreated)
  rw [hcounted]
  refine .created ?_
  rw [says?_reconcileSuccess]
  exact hready

theorem passCreate_closes (hunseen : tally before = ⟨[], [], [], []⟩) :
    ((Pass.create client options : Pass.Step interface Action) held).Yields chronicle
      (Closing options resource) before := by
  refine Work.yields_bind.mpr fun pending _ => ?_
  refine closes_after (updateAnnotations_quiet _) fun acts _ hannounced => ?_
  refine Work.yields_bind.mpr (Work.yields_bind.mpr (Work.yields_bind.mpr fun now _ => ?_))
  refine Work.yields_bind.mpr (Work.yields_attempt.mpr ((yields_ofRemote create_tally).imp ?_))
  rintro later copy result ⟨hmendable, hissued⟩
  cases result with
  | error fault => exact refusal_closes hmendable options.recordAttempts
  | ok details =>
      obtain ⟨token, rfl, created⟩ := hissued details rfl
      refine success_closes token details ?_ ?_
      · exact created.trans <|
          congrArg (fun tally : Tally => { tally with created := token :: tally.created })
            (hannounced.trans hunseen)
      · exact Credentials.says?_entered ..

theorem hold_tally :
    ((Pass.hold : Pass.Step interface Unit) held).Yields chronicle
      (fun acts copy result => tally acts = tally before ∧ Mendable result ∧
        (copy = held ∨ ∃ finalizers, copy = held.setFinalizers finalizers)) before := by
  refine Work.yields_held_then ?_
  cases held.hasFinalizer with
  | true => exact ⟨rfl, trivial, .inl rfl⟩
  | false =>
      refine Work.yields_andThen (updateFinalizers_quiet _) ?_ ?_
      · rintro acts copy value ⟨hsame, rfl, -⟩
        exact ⟨hsame, trivial, .inr ⟨_, rfl⟩⟩
      · rintro acts copy fault ⟨hsame, rfl, hmendable⟩
        exact ⟨hsame, hmendable, .inl rfl⟩

theorem release_closes :
    ((Pass.release : Pass.Step interface Action) held).Yields chronicle
      (Closing options resource) before := by
  refine Work.yields_held_then ?_
  cases held.hasFinalizer with
  | false => exact .awaiting _ _
  | true => exact closes_after (updateFinalizers_quiet _) fun _ _ _ => .awaiting _ _

theorem drive_closes (hunseen : tally before = ⟨[], [], [], []⟩) :
    ((Pass.drive client options : Pass.Step interface Action) resource).Yields chronicle
      (Closing options resource) before := by
  refine Work.yields_bind.mpr ((yields_ofRemote observe_sighting).imp ?_)
  rintro acts copy result hsighted
  cases hsighted with
  | failed hmendable => exact .failed _ _ hmendable
  | absent hsame =>
      refine Work.yields_held_then ?_
      cases resource.isDeleting with
      | true => exact release_closes
      | false =>
          refine Work.yields_andThen hold_tally ?_ ?_
          · rintro acts copy value ⟨hstill, -, -⟩
            exact passCreate_closes (hstill.trans (hsame.trans hunseen))
          · rintro acts copy fault ⟨-, hmendable, -⟩
            exact .failed _ _ hmendable
  | present hname token hseen now =>
      have hseen : tally acts = ⟨[token], [], [], []⟩ := by
        rw [hseen, hunseen]
      have hshows := shows_sighted resource token resource.spec.forProvider.accountId now
      refine Work.yields_held_then ?_
      -- what was observed leaves the deletion as it was
      change Script.Yields _ _
          ((if resource.isDeleting then _ else _ : Pass.Step interface Action) _) _
      cases resource.isDeleting with
      | true => exact passDelete_closes hname hseen
      | false =>
          refine Work.yields_andThen hold_tally ?_ ?_
          · rintro acts copy value ⟨hstill, -, halike⟩
            have hstill := hstill.trans hseen
            rcases halike with rfl | ⟨finalizers, rfl⟩
            · exact maintain_closes hstill hshows
            · exact maintain_closes hstill (hshows.setFinalizers finalizers)
          · rintro acts copy fault ⟨-, hmendable, -⟩
            exact .failed _ _ hmendable

theorem connected_closes :
    ((Pass.connected connector options : Pass.Step interface Action) resource).Yields chronicle
      (Closing options resource) [] := by
  refine Work.yields_andThen (yields_ofRemote connect_quiet) ?_ ?_
  · rintro acts copy found ⟨⟨hsame, rfl, -⟩, hknown⟩
    obtain rfl := hknown found rfl
    refine Work.yields_bind.mpr (Work.yields_attempt.mpr ((drive_closes hsame).imp ?_))
    rintro acts copy result hclosing
    exact Work.yields_ofExcept.mpr hclosing
  · rintro acts copy fault ⟨⟨-, -, hmendable⟩, -⟩
    exact .failed _ _ hmendable

/-- Every pass that comes to its end leaves this behind. -/
theorem pass_closes (resource : Credentials) (options : PassOptions) :
    (Pass.run connector options resource).Yields chronicle (Closing options resource) [] := by
  refine Work.yields_held_then ?_
  cases hnameless : resource.name.isEmpty with
  | true => exact .refused (String.isEmpty_iff.mp hnameless)
  | false =>
      cases resource.isDeleting with
      | true =>
          cases resource.spec.deletionPolicy with
          | orphan => exact Work.yields_bind.mpr (Work.yields_bind.mpr fun _ _ => release_closes)
          | delete => exact connected_closes
      | false =>
          cases resource.createIncomplete with
          | true => exact .failed _ _ rfl
          | false => exact connected_closes

/-! A round -/

/-- What a round says of itself in the status of its resource, by how it ended. -/
inductive Attested (options : PassOptions) (resource : Credentials)
    (moments : List (Moment (Round.interface interface))) : Round.Outcome → Prop where
  | limited (delay : Time.Span) : Attested options resource moments (.limited delay)
  | awaiting : Attested options resource moments (.finished .awaitChange)
  | requeued {after : Time.Span} {copy : Credentials} {earlier : List (Credentials × Bool)}
      (last : reports (moments.filterMap Round.told) = (copy, true) :: earlier)
      (synced : copy.says? Condition.synced = some ("True", some "ReconcileSuccess", none))
      (exit : Exit options resource.spec.forProvider.accountId
        (tally (moments.filterMap Round.told)) copy after) :
      Attested options resource moments (.finished (.requeue after))
  /-- The failure is that of the pass, whatever the write of the status is answered. -/
  | failed {fault : Fault} {start stop now : Time.Instant} {held copy : Credentials}
      {pass : List (Moment (Round.interface interface))} {answer : Except Fault Unit}
      (mendable : fault.isFatal = false)
      (own : (Round.upTo (start.later options.timeout) (.timeout options.timeout)
        (Pass.run connector options resource)).Reaches pass (some (.done held (.error fault))))
      (last : moments =
        .asked (Round.Call.recordFailure copy) answer :: .read now ::
          .counted (.passFailed fault.label) :: Round.clocked start stop pass)
      (synced : copy.says? Condition.synced =
        some ("False", some "ReconcileError", some fault.message)) :
      Attested options resource moments (.failed fault)
  | refused (nameless : resource.name = "")
      (silent : ∀ call ∈ moments.filterMap Moment.call?, call = Round.Call.admission) :
      Attested options resource moments
        (.failed (.notAManagedResource Kind.credentials.name "object has no name"))

theorem closing_of_reaches {deadline : Time.Instant} {late : Fault}
    (hmendable : late.isFatal = false) {pass : List (Moment (Round.interface interface))}
    {result : Except Fault Action}
    (hreached : (Round.upTo deadline late (Pass.run connector options resource)).Reaches pass
      (some (.done held result)))
    (hproper : ∀ act ∈ pass.filterMap Round.told, isProper act = true) :
    Closing options resource (pass.filterMap Round.told) held result := by
  rcases Round.upTo_ending hreached with hended | ⟨rfl, -⟩
  · have hclosing := (pass_closes resource options).done hended hproper
    simpa [chronicle] using hclosing
  · exact .failed _ _ hmendable

theorem reading_clocked (reading : Act → Option α) (hclock : ∀ now, reading (.read now) = none)
    (htook : ∀ span, reading (.counted (.passTook span)) = none)
    (hstarted : reading (.counted .passStarted) = none) (start stop : Time.Instant)
    (pass : List (Moment (Round.interface interface))) :
    ((Round.clocked start stop pass).filterMap Round.told).filterMap reading =
      (pass.filterMap Round.told).filterMap reading := by
  rw [Round.told_clocked]
  simp [hclock, htook, hstarted]

theorem tally_clocked (start stop : Time.Instant)
    (pass : List (Moment (Round.interface interface))) :
    tally ((Round.clocked start stop pass).filterMap Round.told) =
      tally (pass.filterMap Round.told) := by
  have hseen := reading_clocked seen? (fun _ => rfl) (fun _ => rfl) rfl start stop pass
  have hcreated := reading_clocked created? (fun _ => rfl) (fun _ => rfl) rfl start stop pass
  have hrevoking := reading_clocked revoking? (fun _ => rfl) (fun _ => rfl) rfl start stop pass
  have hrequeued := reading_clocked requeueing? (fun _ => rfl) (fun _ => rfl) rfl start stop pass
  simp only [tally, Issuance.created, Issuance.revoking, hseen, hcreated, hrevoking, hrequeued]

theorem silent_of_told {moments : List (Moment (Round.interface interface))}
    (huntold : moments.filterMap Round.told = []) :
    ∀ call ∈ moments.filterMap Moment.call?, call = Round.Call.admission := by
  intro call hmember
  obtain ⟨moment, hmember, hasks⟩ := List.mem_filterMap.mp hmember
  have huntold := List.filterMap_eq_nil_iff.mp huntold moment hmember
  cases moment with
  | asked asked answer =>
      cases hasks
      cases call with
      | admission => rfl
      | within deadline call => cases (answer : Option (Pass.Answer call)) <;> cases huntold
      | recordFailure copy => cases huntold
  | lost lost =>
      cases hasks
      cases call with
      | admission => rfl
      | within deadline call => cases huntold
      | recordFailure copy => cases huntold
  | read now => cases hasks
  | counted event => cases hasks

/-- The status tells the truth about the pass, whatever it is answered. -/
theorem status_attests_round (options : PassOptions) (resource : Credentials)
    {moments : List (Moment (Round.interface interface))} {held : Credentials}
    {outcome : Round.Outcome}
    (reached : (Round.run connector options resource).Reaches moments (some (.done held outcome)))
    (proper : ∀ act ∈ moments.filterMap Round.told, isProper act = true) :
    Attested options resource moments outcome := by
  cases Round.ending_of_reaches reached with
  | limited hpositive => exact .limited _
  | @passed start stop pass conclusion left _ result _ passed hconcluded =>
      have hwithin : ∀ act ∈ pass.filterMap Round.told, isProper act = true := by
        intro act hmember
        refine proper act ?_
        obtain ⟨moment, hmember, told⟩ := List.mem_filterMap.mp hmember
        refine List.mem_filterMap.mpr ⟨moment, ?_, told⟩
        simp [Round.clocked, hmember]
      have hclosing := closing_of_reaches rfl passed hwithin
      generalize hacts : pass.filterMap Round.told = told at hclosing
      cases hconcluded with
      | finished action =>
          cases hclosing with
          | requeued hlast hsynced hexit =>
              subst hacts
              have hreported := reading_clocked reporting? (fun _ => rfl) (fun _ => rfl) rfl
                start stop pass
              refine .requeued (hreported.trans hlast) hsynced ?_
              rw [List.nil_append, tally_clocked]
              exact hexit
          | awaiting => exact .awaiting
      | fatal fatal =>
          cases hclosing with
          | failed _ _ hmendable => simp [fatal] at hmendable
          | refused hnameless =>
              refine .refused hnameless fun call hmember => ?_
              simp only [Round.clocked, List.cons_append, List.nil_append, List.filterMap_cons,
                Moment.call?, List.filterMap_append, List.mem_append] at hmember
              rcases hmember with hasked | hopened
              · exact silent_of_told hacts call hasked
              · exact List.mem_singleton.mp hopened
      | recorded hmendable now answer =>
          exact .failed hmendable passed rfl (Credentials.says?_entered ..)

/-- A resource whose token was suspended. -/
def suspended : Credentials :=
  (applicant.setExternalName "token").setFinalizers [finalizer]

def suspension : Token :=
  { tokenNamed "token" with status := some "disabled" }

theorem status_attests_round_suspended :
    ∃ moments held, (Round.run connector habits suspended).Reaches moments
        (some (.done held (.finished (.requeue habits.pollInterval)))) ∧
      (∀ act ∈ moments.filterMap Round.told, isProper act = true) ∧
      Attested habits suspended moments (.finished (.requeue habits.pollInterval)) := by
  have hreached := reaches_rehearsal 1717200000 (obliging (some suspension) suspension) habits
    suspended
  have hpolled : (ending 1717200000 (obliging (some suspension) suspension) habits suspended).2 =
      .finished (.requeue habits.pollInterval) := by decide +kernel
  have hproper : ∀ act ∈ (rehearsal 1717200000 (obliging (some suspension) suspension) habits
      suspended).filterMap Round.told, isProper act = true := by decide +kernel
  rw [hpolled] at hreached
  exact ⟨_, _, hreached, hproper, status_attests_round habits suspended hreached hproper⟩

end BucketKeys.Issuance
