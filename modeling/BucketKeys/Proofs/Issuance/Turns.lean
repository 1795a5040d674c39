import BucketKeys.Proofs.Issuance.Acts

/-!
All that one step of a pass can do, with the stages on both sides of it.
-/

namespace BucketKeys.Issuance

open Bookkeeping TokenApi

variable {resource : Credentials}

/-- Moments that say nothing of the token or of the stored resource but its status. -/
inductive Act.Idle : Act → Prop where
  | read (now : Time.Instant) : Idle (.read now)
  | counted (event : Event) : Idle (.counted event)
  | paused (span : Time.Span) (answer : Unit) : Idle (.asked (Pass.Call.pause span) answer)
  | reported (copy : Credentials) (answer : Except Fault Unit) : Idle (.reported copy answer)

inductive Act.Failed : Act → Prop where
  | lost (call : Pass.Call interface) : Failed (.lost call)
  | unseen (id : String) {failure : Failure} (unclear : failure.isNotFound = false) :
      Failed (.lookedUp id (.error failure))
  | unrevoked (id : String) (failure : Failure) : Failed (.revoked id (.error failure))
  | unannounced (copy : Credentials) (changes : Dictionary (Option String)) (fault : Fault) :
      Failed (.annotated copy changes (.error fault))
  | unfinalized (copy : Credentials) (finalizers : List String) (fault : Fault) :
      Failed (.finalized copy finalizers (.error fault))
  | unpublished (copy : Credentials) (details : ConnectionDetails) (fault : Fault) :
      Failed (.published copy details (.error fault))

inductive Turn (resource : Credentials) : Stage → Act → Stage → Prop where
  | idle (stage : Stage) {act : Act} (idle : act.Idle) : Turn resource stage act stage
  | spent {stage : Stage} {act : Act}
      (permitted : ∀ call, act.call? = some call → permits resource stage call)
      (failed : act.Failed) : Turn resource stage act .spent
  | authentication (admitted : resource.Open) (call : Authentication.Call)
      (answer : Authentication.Answer call) :
      Turn resource .start (.asked (Pass.Call.remote (Call.authentication call)) answer) .start
  | authenticated (admitted : resource.Open) (apiToken : String) (answer : Unit) :
      Turn resource .start (.asked (Pass.Call.remote (Call.authenticate apiToken)) answer)
        .connected
  | found (admitted : resource.Open) {id : String} (name : resource.externalName? = some id)
      (token : Token) : Turn resource .connected (.lookedUp id (.ok token)) .present
  | missing (admitted : resource.Open) {id : String} (name : resource.externalName? = some id)
      {failure : Failure} (gone : failure.isNotFound = true) :
      Turn resource .connected (.lookedUp id (.error failure)) .vacant
  | held {stage : Stage} (live : resource.isDeleting = false)
      (vacant : stage.isVacant resource = true) (copy : Credentials) :
      Turn resource stage (.finalized copy resource.finalizersWith (.ok ())) .held
  | kept (live : resource.isDeleting = false) (copy : Credentials) :
      Turn resource .present (.finalized copy resource.finalizersWith (.ok ())) .present
  | released {stage : Stage} {finalizers : List String} (deleting : resource.isDeleting = true)
      (custody : Custody resource stage finalizers) (copy : Credentials) :
      Turn resource stage (.finalized copy finalizers (.ok ())) .released
  | announcing {stage : Stage} (live : resource.isDeleting = false)
      (prepared : stage.isHeld resource = true) (now : Time.Instant) :
      Turn resource stage (.read now) (.announcing now)
  | announced (live : resource.isDeleting = false) (now : Time.Instant) (copy : Credentials) :
      Turn resource (.announcing now)
        (.annotated copy (.singleton pendingKey (some (Time.Rfc3339.stamp now))) (.ok ()))
        .announced
  | chosen (live : resource.isDeleting = false) (catalog : List PermissionGroup)
      (some : (selectGroups catalog resource.spec.forProvider.permissions).isEmpty = false) :
      Turn resource .announced (.listed (.ok catalog))
        (.chosen (selectGroups catalog resource.spec.forProvider.permissions))
  | unlisted (answer : Except Failure (List PermissionGroup)) :
      Turn resource .announced (.listed answer) .refused
  | created (admitted : resource.Open) (live : resource.isDeleting = false)
      (groups : List GroupReference) (token : Token) :
      Turn resource (.chosen groups)
        (.requested (tokenRequest resource.spec.forProvider groups) (.ok token)) (.created token)
  | refused (groups : List GroupReference) (failure : Failure) :
      Turn resource (.chosen groups)
        (.requested (tokenRequest resource.spec.forProvider groups) (.error failure)) .refused
  | failing (now : Time.Instant) : Turn resource .refused (.read now) (.failing now)
  | failed (live : resource.isDeleting = false) (now : Time.Instant) (copy : Credentials)
      (answer : Except Fault Unit) :
      Turn resource (.failing now)
        (.annotated copy (.singleton failedKey (some (Time.Rfc3339.stamp now))) answer)
        (.failing now)
  | recording (token : Token) (now : Time.Instant) :
      Turn resource (.created token) (.read now) (.recording token now)
  | recorded (live : resource.isDeleting = false) (token : Token) (now : Time.Instant)
      (copy : Credentials) :
      Turn resource (.recording token now)
        (.annotated copy (Pass.successAnnotations (Time.Rfc3339.stamp now) (recordedName token))
          (.ok ()))
        (.recorded token)
  | unrecorded (live : resource.isDeleting = false) (token : Token) (now : Time.Instant)
      (copy : Credentials) (fault : Fault) :
      Turn resource (.recording token now)
        (.annotated copy (Pass.successAnnotations (Time.Rfc3339.stamp now) (recordedName token))
          (.error fault))
        (.recording token now)
  | delivered (live : resource.isDeleting = false) (token : Token) (copy : Credentials) :
      Turn resource (.recorded token) (.published copy (detailsOf resource token) (.ok ()))
        (.delivered token)
  | revoked (admitted : resource.Open) (deleting : resource.isDeleting = true) {id : String}
      (name : resource.externalName? = some id) (answer : Except Failure Unit) :
      Turn resource .present (.revoked id answer) .revoked

theorem turn_of_read (stage : Stage) (now : Time.Instant) :
    Turn resource stage (.read now) (clockRead resource stage now) := by
  cases stage with
  | refused => exact .failing now
  | created token => exact .recording token now
  | _ =>
      simp only [clockRead]
      split
      · rename_i prepared
        simp only [Bool.and_eq_true, Bool.not_eq_true'] at prepared
        exact .announcing prepared.1 prepared.2 now
      · exact .idle _ (.read now)

theorem turn_of_inquiry {stage : Stage} {call : Call} (hadmitted : resource.Open)
    (hinquiry : Inquiry resource stage call) (answer : Answer call) :
    Turn resource stage (.asked (Pass.Call.remote call) answer)
      (afterInquiry resource stage call answer) := by
  have hpermitted (other : Pass.Call interface)
      (hsame : some (Pass.Call.remote call) = some other) :
      permits resource stage other := by
    cases hsame
    exact ⟨hadmitted, hinquiry⟩
  cases hinquiry with
  | authentication call => exact .authentication hadmitted call answer
  | authenticate apiToken => exact .authenticated hadmitted apiToken answer
  | getToken hname =>
      cases (answer : Except Failure Token) with
      | ok token => exact .found hadmitted hname token
      | error failure =>
          change Turn resource _ _ (if failure.isNotFound then .vacant else .spent)
          cases hgone : failure.isNotFound with
          | true => exact .missing hadmitted hname hgone
          | false => exact .spent hpermitted (.unseen _ hgone)
  | deleteToken hdeleting hname =>
      cases (answer : Except Failure Unit) with
      | ok done => exact .revoked hadmitted hdeleting hname (.ok done)
      | error failure =>
          change Turn resource _ _ (if failure.isNotFound then .revoked else .spent)
          cases hgone : failure.isNotFound with
          | true => exact .revoked hadmitted hdeleting hname (.error failure)
          | false => exact .spent hpermitted (.unrevoked _ failure)
  | listPermissionGroups hlive =>
      cases (answer : Except Failure (List PermissionGroup)) with
      | error failure => exact .unlisted (.error failure)
      | ok catalog =>
          change Turn resource _ _ (if _ then _ else _)
          cases hempty : (selectGroups catalog resource.spec.forProvider.permissions).isEmpty with
          | true => exact .unlisted (.ok catalog)
          | false => exact .chosen hlive catalog hempty
  | createToken hlive groups =>
      cases (answer : Except Failure Token) with
      | ok token => exact .created hadmitted hlive groups token
      | error failure => exact .refused groups failure

theorem turn_of_announcement {stage : Stage} {changes : Dictionary (Option String)}
    (hlive : resource.isDeleting = false) (hannouncement : Announcement stage changes)
    (copy : Credentials) (answer : Except Fault Unit) :
    Turn resource stage (.annotated copy changes answer) (afterAnnouncement stage answer) := by
  have hpermitted (call : Pass.Call interface)
      (hsame : some (Pass.Call.updateAnnotations copy changes) = some call) :
      permits resource stage call := by
    cases hsame
    exact ⟨hlive, hannouncement⟩
  cases hannouncement with
  | pending now =>
      cases answer with
      | ok done => exact .announced hlive now copy
      | error fault => exact .spent hpermitted (.unannounced copy _ fault)
  | failed now =>
      cases answer with
      | ok done => exact .failed hlive now copy (.ok done)
      | error fault => exact .failed hlive now copy (.error fault)
  | succeeded token now =>
      cases answer with
      | ok done => exact .recorded hlive token now copy
      | error fault => exact .unrecorded hlive token now copy fault

theorem turn_of_custody {stage : Stage} {finalizers : List String}
    (hcustody : Custody resource stage finalizers) (copy : Credentials)
    (answer : Except Fault Unit) :
    Turn resource stage (.finalized copy finalizers answer)
      (afterCustody resource stage answer) := by
  cases answer with
  | error fault =>
      refine .spent ?_ (.unfinalized copy finalizers fault)
      intro call hsame
      cases hsame
      exact hcustody
  | ok done =>
      cases hcustody with
      | taken hlive hmissing hobserved =>
          rcases hobserved with rfl | hvacant
          · simp only [afterCustody, hlive]
            exact .kept hlive copy
          · have held : afterCustody resource stage (.ok done) = .held := by
              cases stage <;> simp_all [afterCustody, Stage.isVacant]
            rw [held]
            exact .held hlive hvacant copy
      | orphaned hdeleting hpolicy =>
          simp only [afterCustody, hdeleting, if_true]
          exact .released hdeleting (.orphaned hdeleting hpolicy) copy
      | released hdeleting hgone =>
          simp only [afterCustody, hdeleting, if_true]
          exact .released hdeleting (.released hdeleting hgone) copy

theorem turn_of_permitted {stage : Stage} {act : Act}
    (hpermitted : ∀ call, act.call? = some call → (protocol resource).permits stage call) :
    Turn resource stage act ((protocol resource).next stage act) := by
  cases act with
  | read now => exact turn_of_read stage now
  | counted event => exact .idle stage (.counted event)
  | lost call => exact .spent hpermitted (.lost call)
  | asked call answer =>
      have hallowed := hpermitted call rfl
      cases call with
      | remote call => exact turn_of_inquiry hallowed.1 hallowed.2 answer
      | updateAnnotations copy changes =>
          exact turn_of_announcement hallowed.1 hallowed.2 copy answer
      | updateFinalizers copy finalizers => exact turn_of_custody hallowed copy answer
      | updateStatus copy => exact .idle stage (.reported copy answer)
      | pause span => exact .idle stage (.paused span answer)
      | publish copy details =>
          obtain ⟨hlive, token, rfl, rfl⟩ := hallowed
          cases (answer : Except Fault Unit) with
          | ok done => exact .delivered hlive token copy
          | error fault => exact .spent hpermitted (.unpublished copy _ fault)

theorem stage_invariant (Known : Stage → List Act → Prop) (hstart : Known .start [])
    (hturn : ∀ {stage act last before}, Turn resource stage act last → Known stage before →
      Known last (act :: before)) {acts : List Act}
    (hkept : (protocol resource).Kept .start acts) :
    Known ((protocol resource).stageAfter .start acts) acts := by
  induction acts with
  | nil => exact hstart
  | cons act before ih => exact hturn (turn_of_permitted hkept.2) (ih hkept.1)

end BucketKeys.Issuance
