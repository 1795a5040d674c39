import BucketKeys.Proofs.Issuance.Inquiries
import BucketKeys.Proofs.Round.Protocol

/-!
Every pass keeps to the protocol for its resource, and so does every round.
-/

namespace BucketKeys.Issuance

open Bookkeeping TokenApi

variable {resource held : Credentials}

/-! The questions of the pass itself -/

theorem updateAnnotations_keeps {stage : Stage} {changes : Dictionary (Option String)}
    (hlive : resource.isDeleting = false) (hannouncement : Announcement stage changes) :
    ((Pass.updateAnnotations changes : Pass.Step interface Unit) held).Keeps (protocol resource)
      (fun after copy result => after = afterAnnouncement stage result ∧ copy = held) stage := by
  refine Work.keeps_bind.mpr (Work.keeps_held.mpr ?_)
  refine Work.keeps_ask_then ⟨hlive, hannouncement⟩ fun answer => ?_
  exact Work.keeps_ofExcept.mpr ⟨rfl, rfl⟩

theorem recordFrom_keeps {stage : Stage} {changes : Dictionary (Option String)}
    (hlive : resource.isDeleting = false) (hannouncement : Announcement stage changes)
    (hpatient : ∀ fault, afterAnnouncement stage (.error fault) = stage) (number more : Nat) :
    ((Pass.recordFrom changes number more : Pass.Step interface Unit) held).Keeps
      (protocol resource)
      (fun after copy result => after = afterAnnouncement stage result ∧ copy = held) stage := by
  induction more generalizing number with
  | zero => exact updateAnnotations_keeps hlive hannouncement
  | succ more ih =>
      refine Work.keeps_bind.mpr (Work.keeps_attempt.mpr
        ((updateAnnotations_keeps hlive hannouncement).imp ?_))
      intro after copy result hknown
      obtain ⟨rfl, rfl⟩ := hknown
      cases result with
      | ok done => exact ⟨rfl, rfl⟩
      | error fault =>
          rw [hpatient fault]
          refine Work.keeps_bind.mpr ?_
          refine Work.keeps_ask_then trivial fun _ => ?_
          exact ih (number + 1)

theorem updateFinalizers_keeps {stage : Stage} {finalizers : List String}
    (hcustody : Custody resource stage finalizers) :
    ((Pass.updateFinalizers finalizers : Pass.Step interface Unit) held).Keeps (protocol resource)
      (fun after copy result => after = afterCustody resource stage result ∧ copy = held)
      stage := by
  refine Work.keeps_bind.mpr (Work.keeps_held.mpr ?_)
  refine Work.keeps_ask_then hcustody fun answer => ?_
  exact Work.keeps_ofExcept.mpr ⟨rfl, rfl⟩

theorem publish_keeps {token : Token} (hlive : resource.isDeleting = false) :
    ((Pass.publish (detailsOf resource token) : Pass.Step interface Unit) held).Keeps
      (protocol resource)
      (fun after _ result => after = afterPublication (.recorded token) result)
      (.recorded token) := by
  refine Work.keeps_bind.mpr (Work.keeps_held.mpr ?_)
  refine Work.keeps_ask_then ⟨hlive, token, rfl, rfl⟩ fun answer => ?_
  exact Work.keeps_ofExcept.mpr rfl

def Still (resource : Credentials) (stage : Stage) : Prop :=
  ∀ now, clockRead resource stage now = stage

theorem still_of_deleting (hdeleting : resource.isDeleting = true) {stage : Stage}
    (hrefused : stage ≠ .refused) (hcreated : ∀ token, stage ≠ .created token) :
    Still resource stage := by
  intro now
  cases stage <;> simp_all [clockRead]

theorem finish_keeps {stage : Stage} (hstill : Still resource stage) (reason : String)
    (after : Time.Span) :
    ((Pass.finish reason after : Pass.Step interface Action) held).Keeps (protocol resource)
      (fun last _ _ => last = stage) stage := by
  refine Work.keeps_bind.mpr (Work.keeps_bind.mpr fun now => ?_)
  change Script.Keeps _ _ _ (clockRead resource stage now)
  rw [hstill now]
  refine Work.keeps_bind.mpr ?_
  refine Work.keeps_bind.mpr (Work.keeps_held.mpr ?_)
  refine Work.keeps_ask_then trivial fun answer => ?_
  cases (answer : Except Fault Unit) with
  | ok done => exact rfl
  | error fault => exact rfl

/-! A pass -/

def Concludes (resource : Credentials) (stage : Stage) (_ : Credentials)
    (result : Except Fault α) : Prop :=
  ∀ value, result = .ok value → stage.Complete resource

theorem detailsOf_isEmpty (token : Token) : (detailsOf resource token).isEmpty = false := by
  have hinserted (name : String) (value : Bytes) (map : ConnectionDetails) :
      (map.insert name value).isEmpty = false := by
    cases entries : map.entries with
    | nil => simp [Dictionary.insert, Dictionary.isEmpty, Dictionary.insertEntry, entries]
    | cons first rest =>
        simp only [Dictionary.insert, Dictionary.isEmpty, Dictionary.insertEntry, entries]
        split
        · rfl
        · split <;> rfl
  exact hinserted tokenValueName _ _

theorem clockRead_of_isHeld (hlive : resource.isDeleting = false) {stage : Stage}
    (hisHeld : stage.isHeld resource = true) (now : Time.Instant) :
    clockRead resource stage now = .announcing now := by
  cases stage <;> simp_all [clockRead, Stage.isHeld, Stage.isVacant]

theorem still_announced : Still resource .announced := by
  intro now
  simp [clockRead, Stage.isHeld, Stage.isVacant]

theorem still_delivered (token : Token) : Still resource (.delivered token) := by
  intro now
  simp [clockRead, Stage.isHeld, Stage.isVacant]

theorem refusal_keeps (hlive : resource.isDeleting = false) (fault : Fault) (attempts : Nat) :
    ((do
        let failed := Time.Rfc3339.stamp (← Work.now)
        Work.modify (·.annotate failedKey failed)
        let _ ← (Pass.record attempts (.singleton failedKey (some failed))).attempt
        Work.fail fault : Pass.Step interface Action) held).Keeps (protocol resource)
      (Concludes resource) .refused := by
  refine Work.keeps_bind.mpr fun now => ?_
  refine Work.keeps_bind.mpr ?_
  refine Work.keeps_bind.mpr (Work.keeps_attempt.mpr
    ((recordFrom_keeps hlive (.failed now) (fun _ => rfl) 1 _).imp ?_))
  rintro stage copy result -
  intro value hsame
  cases hsame

theorem success_keeps (hlive : resource.isDeleting = false) {token : Token}
    (hname : held.externalName? = recordedName token) (options : PassOptions) :
    ((do
        Work.count .resourceCreated
        let succeeded := Time.Rfc3339.stamp (← Work.now)
        Work.modify (·.annotate succeededKey succeeded)
        let copy ← Work.held
        Pass.record options.recordAttempts
          (Pass.successAnnotations succeeded copy.externalName?)
        Pass.publishAny (detailsOf resource token)
        Pass.finish "created" options.shortWait : Pass.Step interface Action) held).Keeps
      (protocol resource) (Concludes resource) (.created token) := by
  have hstamped (succeeded : String) :
      (held.annotate succeededKey succeeded).externalName? = recordedName token := by
    rw [← hname]
    simp [Credentials.externalName?, Credentials.annotationOf?_annotate, succeededKey,
      externalNameKey]
  refine Work.keeps_bind.mpr (Work.keeps_bind.mpr fun now => ?_)
  have hannouncement : Announcement (.recording token now)
      (Pass.successAnnotations (Time.Rfc3339.stamp now)
        (held.annotate succeededKey (Time.Rfc3339.stamp now)).externalName?) := by
    rw [hstamped]
    exact .succeeded token now
  refine Work.keeps_bind.mpr (Work.keeps_bind.mpr ?_)
  refine Work.keeps_andThen (recordFrom_keeps hlive hannouncement (fun _ => rfl) 1 _) ?_ ?_
  · intro stage copy value hknown
    obtain ⟨rfl, -⟩ := hknown
    change Script.Keeps _ _ _ (Stage.recorded token)
    rw [Pass.publishAny, detailsOf_isEmpty]
    refine Work.keeps_andThen (publish_keeps hlive) ?_ ?_
    · intro stage copy value hsame
      subst hsame
      change Script.Keeps _ _ _ (Stage.delivered token)
      refine (finish_keeps (still_delivered token) _ _).imp ?_
      rintro stage copy result rfl action -
      trivial
    · intro stage copy fault _ action hsame
      cases hsame
  · intro stage copy fault _ action hsame
    cases hsame

theorem passCreate_keeps (hadmitted : resource.Open) (hlive : resource.isDeleting = false)
    (hspec : held.spec = resource.spec) {stage : Stage} (hisHeld : stage.isHeld resource = true)
    (options : PassOptions) :
    ((Pass.create client options : Pass.Step interface Action) held).Keeps (protocol resource)
      (Concludes resource) stage := by
  refine Work.keeps_bind.mpr fun now => ?_
  change Script.Keeps _ _ _ (clockRead resource stage now)
  rw [clockRead_of_isHeld hlive hisHeld now]
  refine Work.keeps_andThen (updateAnnotations_keeps hlive (.pending now)) ?_ ?_
  · intro stage copy value hknown
    obtain ⟨rfl, rfl⟩ := hknown
    change Script.Keeps _ _ _ Stage.announced
    refine Work.keeps_bind.mpr (Work.keeps_bind.mpr (Work.keeps_bind.mpr fun creating => ?_))
    change Script.Keeps _ _ _ (clockRead resource .announced creating)
    rw [still_announced creating]
    refine Work.keeps_bind.mpr (Work.keeps_attempt.mpr
      ((keeps_ofRemote (create_keeps hadmitted hlive (by exact hspec))).imp ?_))
    rintro stage created result hissued
    cases hissued with
    | refused _ fault => exact refusal_keeps hlive fault options.recordAttempts
    | created token hname => exact success_keeps hlive hname options
  · intro stage copy fault hknown
    obtain ⟨rfl, rfl⟩ := hknown
    intro value hsame
    cases hsame

theorem hold_keeps (hlive : resource.isDeleting = false) (halike : Alike held resource)
    {stage : Stage} (hobserved : stage = .present ∨ stage.isVacant resource = true) :
    ((Pass.hold : Pass.Step interface Unit) held).Keeps (protocol resource)
      (fun after copy result => copy.spec = resource.spec ∧ (result = .ok () →
        (stage = .present → after = .present) ∧
          (stage.isVacant resource = true → after.isHeld resource = true))) stage := by
  have hfinalizer : held.hasFinalizer = resource.hasFinalizer := by
    unfold Credentials.hasFinalizer Credentials.finalizers
    rw [halike.1]
  have hfinalizers : held.finalizersWith = resource.finalizersWith := by
    unfold Credentials.finalizersWith Credentials.hasFinalizer Credentials.finalizers
    rw [halike.1]
  refine Work.keeps_bind.mpr (Work.keeps_held.mpr ?_)
  rw [Work.leads_ok, hfinalizer, hfinalizers]
  cases hpresent : resource.hasFinalizer with
  | true =>
      refine ⟨halike.2, fun _ => ⟨id, fun hvacant => ?_⟩⟩
      cases stage <;> simp_all [Stage.isHeld]
  | false =>
      refine Work.keeps_andThen
        (updateFinalizers_keeps (.taken hlive hpresent hobserved)) ?_ ?_
      · intro after copy value hknown
        obtain ⟨rfl, rfl⟩ := hknown
        refine ⟨halike.2, fun _ => ⟨?_, fun hvacant => ?_⟩⟩
        · intro hsame
          subst hsame
          simp [afterCustody, hlive]
        · cases stage <;> simp_all [afterCustody, Stage.isVacant, Stage.isHeld]
      · intro after copy fault hknown
        obtain ⟨rfl, rfl⟩ := hknown
        refine ⟨halike.2, ?_⟩
        intro hsame
        cases hsame

theorem release_keeps {stage : Stage} (halike : Alike held resource)
    (hdeleting : resource.isDeleting = true) (hcomplete : stage.Complete resource)
    (hcustody : Custody resource stage resource.finalizersWithout) :
    ((Pass.release : Pass.Step interface Action) held).Keeps (protocol resource)
      (Concludes resource) stage := by
  have hfinalizers : held.finalizersWithout = resource.finalizersWithout := by
    unfold Credentials.finalizersWithout Credentials.finalizers
    rw [halike.1]
  refine Work.keeps_bind.mpr (Work.keeps_held.mpr ?_)
  rw [Work.leads_ok, hfinalizers]
  cases held.hasFinalizer with
  | false => exact fun _ _ => hcomplete
  | true =>
      refine Work.keeps_andThen (updateFinalizers_keeps hcustody) ?_ ?_
      · rintro after copy value ⟨rfl, rfl⟩ action -
        simp [afterCustody, hdeleting, Stage.Complete]
      · intro after copy fault _ action hsame
        cases hsame

theorem maintain_keeps (options : PassOptions) :
    ((Pass.maintain client options .current : Pass.Step interface Action) held).Keeps
      (protocol resource) (Concludes resource) .present := by
  refine (finish_keeps (fun _ => clockRead_present) "poll" options.pollInterval).imp ?_
  rintro stage copy result rfl action -
  trivial

theorem passDelete_keeps (hadmitted : resource.Open) (hdeleting : resource.isDeleting = true)
    (halike : Alike held resource) (options : PassOptions) :
    ((Pass.delete client options : Pass.Step interface Action) held).Keeps (protocol resource)
      (Concludes resource) .present := by
  refine Work.keeps_bind.mpr (Work.keeps_bind.mpr fun now => ?_)
  change Script.Keeps _ _ _ (clockRead resource .present now)
  rw [clockRead_present]
  refine Work.keeps_andThen
      (keeps_ofRemote (delete_keeps hadmitted hdeleting (by exact halike))) ?_ ?_
  · rintro stage copy value hended
    have hcomplete : stage.Complete resource ∧ Still resource stage := by
      rcases hended rfl with rfl | rfl
      · exact ⟨trivial, fun _ => clockRead_present⟩
      · exact ⟨hdeleting, still_of_deleting hdeleting (by simp) (by simp)⟩
    refine Work.keeps_bind.mpr ?_
    refine (finish_keeps hcomplete.2 "deleting" options.shortWait).imp ?_
    rintro after copy result rfl action -
    exact hcomplete.1
  · intro stage copy fault _ action hsame
    cases hsame

theorem drive_keeps (hadmitted : resource.Open) (halike : Alike held resource)
    (options : PassOptions) :
    ((Pass.drive client options : Pass.Step interface Action) held).Keeps (protocol resource)
      (Concludes resource) .connected := by
  refine Work.keeps_andThen (keeps_ofRemote (observe_keeps hadmitted halike)) ?_ ?_
  · intro stage copy seen hknown
    obtain ⟨halike, hobserved⟩ := hknown
    refine Work.keeps_bind.mpr (Work.keeps_held.mpr ?_)
    have hdeletion : copy.isDeleting = resource.isDeleting := by
      simp only [Credentials.isDeleting, halike.1]
    rw [Work.leads_ok, hdeletion]
    cases hdeleting : resource.isDeleting with
    | true =>
        rcases hobserved seen rfl with ⟨rfl, rfl⟩ | ⟨rfl, hvacant⟩
        · exact passDelete_keeps hadmitted hdeleting halike options
        · refine release_keeps halike hdeleting ?_ (.released hdeleting hvacant)
          cases stage <;> simp_all [Stage.isVacant, Stage.Complete]
    | false =>
        rcases hobserved seen rfl with ⟨rfl, rfl⟩ | ⟨rfl, hvacant⟩
        · refine Work.keeps_andThen (hold_keeps hdeleting halike (.inl rfl)) ?_ ?_
          · intro after copy value hknown
            obtain ⟨-, hkept⟩ := hknown
            rw [(hkept rfl).1 rfl]
            exact maintain_keeps options
          · intro after copy fault _ action hsame
            cases hsame
        · refine Work.keeps_andThen (hold_keeps hdeleting halike (.inr hvacant)) ?_ ?_
          · intro after copy value hknown
            obtain ⟨hspec, hkept⟩ := hknown
            exact passCreate_keeps hadmitted hdeleting hspec ((hkept rfl).2 hvacant) options
          · intro after copy fault _ action hsame
            cases hsame
  · intro stage copy fault _ action hsame
    cases hsame

theorem connected_keeps (hadmitted : resource.Open) (options : PassOptions) :
    ((Pass.connected connector options : Pass.Step interface Action) resource).Keeps
      (protocol resource) (Concludes resource) .start := by
  refine Work.keeps_andThen (keeps_ofRemote (connect_keeps hadmitted)) ?_ ?_
  · intro stage copy found hknown
    obtain ⟨rfl, hconnected⟩ := hknown
    obtain ⟨rfl, rfl⟩ := hconnected found rfl
    refine Work.keeps_bind.mpr (Work.keeps_attempt.mpr
      ((drive_keeps hadmitted ⟨rfl, rfl⟩ options).imp ?_))
    rintro stage copy result hconcludes
    exact Work.keeps_ofExcept.mpr hconcludes
  · intro stage copy fault _ action hsame
    cases hsame

theorem pass_keeps (resource : Credentials) (options : PassOptions) :
    (Pass.run connector options resource).Keeps (protocol resource) (Concludes resource)
      .start := by
  refine Work.keeps_bind.mpr (Work.keeps_held.mpr ?_)
  rw [Work.leads_ok]
  cases hnamed : resource.name.isEmpty with
  | true => rintro action ⟨⟩
  | false =>
      cases hdeleting : resource.isDeleting with
      | true =>
          cases hpolicy : resource.spec.deletionPolicy with
          | orphan =>
              refine Work.keeps_bind.mpr (Work.keeps_bind.mpr fun now => ?_)
              change Script.Keeps _ _ _ (clockRead resource .start now)
              rw [still_of_deleting hdeleting (by simp) (by simp) now]
              exact release_keeps ⟨rfl, rfl⟩ hdeleting hdeleting (.orphaned hdeleting hpolicy)
          | delete =>
              have hadmitted : resource.Open := ⟨hnamed, fun _ => hpolicy, by simp [hdeleting]⟩
              exact connected_keeps hadmitted options
      | false =>
          cases hincomplete : resource.createIncomplete with
          | true => rintro action ⟨⟩
          | false =>
              have hadmitted : resource.Open := ⟨hnamed, by simp [hdeleting], fun _ => hincomplete⟩
              exact connected_keeps hadmitted options

/-! A round -/

theorem Stage.Complete.still {stage : Stage} (hcomplete : stage.Complete resource) :
    Still resource stage := by
  cases stage with
  | present => exact fun _ => clockRead_present
  | delivered token => exact still_delivered token
  | start | connected | vacant | revoked | released =>
      exact still_of_deleting hcomplete (by simp) (by simp)
  | _ => exact hcomplete.elim

theorem conclude_keeps {stage : Stage} {result : Except Fault Action}
    (hconcludes : Concludes resource stage held result) :
    (Round.conclude held result).Keeps (Round.around (protocol resource))
      (fun last _ outcome => ∀ action, outcome = .finished action → last.Complete resource)
      stage := by
  cases result with
  | ok action =>
      rintro _ -
      exact hconcludes action rfl
  | error fault =>
      unfold Round.conclude
      rw [Script.keeps_count]
      split
      · intro action hsame
        cases hsame
      · intro now
        refine And.intro trivial fun answer => ?_
        intro action hsame
        cases hsame

theorem timed_keeps (options : PassOptions) :
    (Round.timed connector options resource).Keeps (Round.around (protocol resource))
      (fun stage _ outcome => ∀ action, outcome = .finished action → stage.Complete resource)
      .start := by
  intro start
  have hstill : clockRead resource .start start = .start := by
    simp [clockRead, Stage.isHeld, Stage.isVacant]
  change Script.Keeps _ _ _ (clockRead resource .start start)
  rw [hstill]
  refine (Script.keeps_bind _ _ _).mpr ?_
  have hlimited := Round.upTo_keeps (start.later options.timeout) (.timeout options.timeout)
    (fun _ _ => by rintro action ⟨⟩) (pass_keeps resource options)
  refine hlimited.imp fun stage copy result hconcludes => ?_
  intro stop
  change Script.Keeps _ _ (Round.conclude copy result) (clockRead resource stage stop)
  refine conclude_keeps ?_
  intro action hsame
  subst hsame
  rw [(hconcludes action rfl).still stop]
  exact hconcludes action rfl

theorem round_keeps (resource : Credentials) (options : PassOptions) :
    (Round.run connector options resource).Keeps (Round.around (protocol resource))
      (fun stage _ outcome => ∀ action, outcome = .finished action → stage.Complete resource)
      .start := by
  refine And.intro trivial fun (delay : Time.Span) => ?_
  by_cases hfree : delay = .zero
  · simp only [if_pos hfree]
    exact timed_keeps options
  · simp only [if_neg hfree]
    intro action hsame
    cases hsame

end BucketKeys.Issuance
