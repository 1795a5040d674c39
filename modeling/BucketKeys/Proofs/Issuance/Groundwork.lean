import BucketKeys.Proofs.Course.Bookkeeping
import BucketKeys.Proofs.Issuance.Deletion

/-!
What a round lays down before it asks for a token, and what keeps it from asking.
-/

namespace BucketKeys.Issuance

open Bookkeeping TokenApi

variable {resource : Credentials} {acts : List Act}

/-! The steps towards a creation, in their order -/

namespace Act

@[match_pattern] abbrev authenticated (apiToken : String) (done : Unit) : Act :=
  .asked (Pass.Call.remote (Call.authenticate apiToken)) done

@[match_pattern] abbrev announced (copy : Credentials) (pending : String)
    (answer : Except Fault Unit) : Act :=
  .annotated copy (.singleton pendingKey (some pending)) answer

end Act

/-- A step was taken after something else. The acts are listed with the last of them first. -/
def Then (step : Act → Prop) (earlier : List Act → Prop) (acts : List Act) : Prop :=
  ∃ after act before, acts = after ++ act :: before ∧ step act ∧ earlier before

theorem Then.here {step : Act → Prop} {earlier : List Act → Prop} {act : Act} {before : List Act}
    (htaken : step act) (hbase : earlier before) : Then step earlier (act :: before) :=
  ⟨[], act, before, rfl, htaken, hbase⟩

theorem Then.append {step : Act → Prop} {earlier : List Act → Prop} {before : List Act}
    (hbase : Then step earlier before) (after : List Act) :
    Then step earlier (after ++ before) := by
  obtain ⟨between, act, first, rfl, hknown⟩ := hbase
  exact ⟨after ++ between, act, first, (List.append_assoc ..).symm, hknown⟩

theorem Then.cons {step : Act → Prop} {earlier : List Act → Prop} {before : List Act}
    (hbase : Then step earlier before) (act : Act) : Then step earlier (act :: before) :=
  hbase.append [act]

def Connected : List Act → Prop :=
  Then (fun act => ∃ apiToken done, act = .authenticated apiToken done) fun _ => True

def Unbound (resource : Credentials) (acts : List Act) : Prop :=
  (resource.externalName? = none ∧ Connected acts) ∨
    Then (fun act => ∃ id failure, resource.externalName? = some id ∧
      failure.isNotFound = true ∧ act = .lookedUp id (.error failure)) Connected acts

def Secured (resource : Credentials) (acts : List Act) : Prop :=
  (finalizer ∈ resource.finalizers ∧ Unbound resource acts) ∨
    Then (fun act => ∃ copy, act = .finalized copy (resource.finalizers ++ [finalizer]) (.ok ()))
      (Unbound resource) acts

def Announced (resource : Credentials) : List Act → Prop :=
  Then (fun act => ∃ copy now, act = .announced copy (Time.Rfc3339.stamp now) (.ok ()))
    (Secured resource)

def Chosen (resource : Credentials) (groups : List GroupReference) : List Act → Prop :=
  Then (fun act => ∃ catalog, act = .listed (.ok catalog) ∧
    groups = selectGroups catalog resource.spec.forProvider.permissions ∧ groups ≠ [])
    (Announced resource)

theorem Unbound.cons {before : List Act} (hunbound : Unbound resource before) (act : Act) :
    Unbound resource (act :: before) := by
  rcases hunbound with ⟨hnameless, hconnected⟩ | hlooked
  · exact .inl ⟨hnameless, hconnected.cons act⟩
  · exact .inr (hlooked.cons act)

theorem Secured.cons {before : List Act} (hsecured : Secured resource before) (act : Act) :
    Secured resource (act :: before) := by
  rcases hsecured with ⟨hpresent, hunbound⟩ | hwritten
  · exact .inl ⟨hpresent, hunbound.cons act⟩
  · exact .inr (hwritten.cons act)

def Laid (resource : Credentials) : Stage → List Act → Prop
  | .connected, acts => Connected acts
  | .vacant, acts => Unbound resource acts
  | .held, acts => Secured resource acts
  | .announcing _, acts => Secured resource acts
  | .announced, acts => Announced resource acts
  | .chosen groups, acts => Chosen resource groups acts
  | _, _ => True

theorem Laid.cons {stage : Stage} (hlaid : Laid resource stage acts) (act : Act) :
    Laid resource stage (act :: acts) := by
  cases stage with
  | connected => exact Then.cons hlaid act
  | vacant => exact Unbound.cons hlaid act
  | held | announcing now => exact Secured.cons hlaid act
  | announced | chosen groups => exact Then.cons hlaid act
  | _ => trivial

theorem Laid.unbound {stage : Stage} (hlaid : Laid resource stage acts)
    (hvacant : stage.isVacant resource = true) : Unbound resource acts := by
  cases stage with
  | vacant => exact hlaid
  | connected => exact .inl ⟨Option.isNone_iff_eq_none.mp hvacant, hlaid⟩
  | _ => cases hvacant

theorem Laid.secured {stage : Stage} (hlaid : Laid resource stage acts)
    (hisHeld : stage.isHeld resource = true) : Secured resource acts := by
  have hpresent (hvacant : (stage.isVacant resource && resource.hasFinalizer) = true) :
      Secured resource acts := by
    obtain ⟨hvacant, hfinalizer⟩ := Bool.and_eq_true_iff.mp hvacant
    exact .inl ⟨List.contains_iff_mem.mp hfinalizer, hlaid.unbound hvacant⟩
  cases stage with
  | held => exact hlaid
  | _ => exact hpresent hisHeld

theorem laid_of_kept (hkept : (protocol resource).Kept .start acts) :
    Laid resource ((protocol resource).stageAfter .start acts) acts := by
  refine stage_invariant (Laid resource) trivial ?_ hkept
  intro stage act last before hturn hlaid
  cases hturn with
  | idle stage idle => exact hlaid.cons act
  | authenticated hadmitted apiToken done => exact .here ⟨apiToken, done, rfl⟩ trivial
  | missing hadmitted hname hgone => exact .inr (.here ⟨_, _, hname, hgone, rfl⟩ hlaid)
  | held hlive hvacant copy =>
      have hunbound := hlaid.unbound hvacant
      cases hlisted : resource.hasFinalizer with
      | true => exact .inl ⟨List.contains_iff_mem.mp hlisted, hunbound.cons _⟩
      | false => exact .inr (.here ⟨copy, by simp [Credentials.finalizersWith, hlisted]⟩ hunbound)
  | announcing hlive hprepared now => exact (hlaid.secured hprepared).cons _
  | announced hlive now copy => exact .here ⟨copy, now, rfl⟩ hlaid
  | chosen hlive catalog hsome =>
      exact .here ⟨catalog, rfl, rfl, by simpa using hsome⟩ hlaid
  | _ => trivial

/-! What keeps a pass from asking for a token -/

inductive Preparatory : Pass.Call interface → Prop where
  | authentication (call : Authentication.Call) : Preparatory (.remote (.authentication call))
  | authenticate (apiToken : String) : Preparatory (.remote (.authenticate apiToken))
  | getToken (id : String) : Preparatory (.remote (.getToken id))
  | finalizers (copy : Credentials) (finalizers : List String) :
      Preparatory (.updateFinalizers copy finalizers)
  | announcement (copy : Credentials) (pending : String) :
      Preparatory (.updateAnnotations copy (.singleton pendingKey (some pending)))
  | listPermissionGroups : Preparatory (.remote .listPermissionGroups)

/-- A step on the way to a creation that failed or was cut off. -/
inductive Setback (resource : Credentials) : Act → Prop where
  | lost {call : Pass.Call interface} (preparatory : Preparatory call) :
      Setback resource (.lost call)
  | bound (id : String) (token : Token) : Setback resource (.lookedUp id (.ok token))
  | unclear (id : String) {failure : Failure} (unclear : failure.isNotFound = false) :
      Setback resource (.lookedUp id (.error failure))
  | unsecured (copy : Credentials) (finalizers : List String) (fault : Fault) :
      Setback resource (.finalized copy finalizers (.error fault))
  | unannounced (copy : Credentials) (pending : String) (fault : Fault) :
      Setback resource (.announced copy pending (.error fault))
  | unlisted (failure : Failure) : Setback resource (.listed (.error failure))
  | unmatched {catalog : List PermissionGroup}
      (none : selectGroups catalog resource.spec.forProvider.permissions = []) :
      Setback resource (.listed (.ok catalog))

def requesting? (act : Act) : Option TokenRequest :=
  match act.call? with
  | some (.remote (.createToken request)) => some request
  | _ => none

def publishing? (act : Act) : Option ConnectionDetails :=
  match act.call? with
  | some (.publish _ details) => some details
  | _ => none

def requesting (acts : List Act) : List TokenRequest := acts.filterMap requesting?

def publishing (acts : List Act) : List ConnectionDetails := acts.filterMap publishing?

def Asks (act : Act) : Prop :=
  requesting? act ≠ none ∨ publishing? act ≠ none

namespace Stage

def IsClear : Stage → Prop
  | present => False
  | refused => False
  | failing _ => False
  | revoked => False
  | released => False
  | spent => False
  | _ => True

def IsUnasked : Stage → Prop
  | refused => False
  | failing _ => False
  | created _ => False
  | recording _ _ => False
  | recorded _ => False
  | delivered _ => False
  | spent => False
  | _ => True

theorem isClear_of_isVacant {stage : Stage} (hvacant : stage.isVacant resource = true) :
    stage.IsClear ∧ stage.IsUnasked := by
  cases stage <;> simp_all [isVacant, IsClear, IsUnasked]

theorem isClear_of_isHeld {stage : Stage} (hisHeld : stage.isHeld resource = true) :
    stage.IsClear ∧ stage.IsUnasked := by
  cases stage <;> simp_all [Stage.isHeld, isVacant, IsClear, IsUnasked]

end Stage

theorem successAnnotations_ne_announcement (succeeded pending : String) (name : Option String) :
    Pass.successAnnotations succeeded name ≠ .singleton pendingKey (some pending) := by
  intro hsame
  have hrecorded := get?_successAnnotations_outcome (.inl rfl) succeeded name
  rw [hsame, Dictionary.get?_singleton, if_neg (by decide), if_pos rfl] at hrecorded
  cases hrecorded

theorem failed_ne_announcement (failed pending : String) :
    Dictionary.singleton failedKey (some failed) ≠ .singleton pendingKey (some pending) := by
  intro hsame
  have hrecorded := congrArg (·.get? failedKey) hsame
  simp only [Dictionary.get?_singleton, if_pos, if_neg (show pendingKey ≠ failedKey by decide)]
    at hrecorded
  cases hrecorded

theorem Setback.preparatory {act : Act} (hsetback : Setback resource act) :
    ∃ call, act.call? = some call ∧ Preparatory call := by
  cases hsetback with
  | lost hpreparatory => exact ⟨_, rfl, hpreparatory⟩
  | bound id token | unclear id unclear => exact ⟨_, rfl, .getToken id⟩
  | unsecured copy finalizers fault => exact ⟨_, rfl, .finalizers copy finalizers⟩
  | unannounced copy pending fault => exact ⟨_, rfl, .announcement copy pending⟩
  | unlisted failure | unmatched hnone => exact ⟨_, rfl, .listPermissionGroups⟩

theorem Setback.announcement {copy : Credentials} {changes : Dictionary (Option String)}
    {answer : Except Fault Unit} (hsetback : Setback resource (.annotated copy changes answer)) :
    ∃ pending, changes = .singleton pendingKey (some pending) := by
  cases hsetback with
  | unannounced copy pending fault => exact ⟨pending, rfl⟩

theorem Preparatory.isUnasked {stage : Stage} {call : Pass.Call interface}
    (hpreparatory : Preparatory call) (hpermitted : permits resource stage call) :
    stage.IsUnasked := by
  cases hpreparatory with
  | authentication call | authenticate apiToken | getToken id | listPermissionGroups =>
      cases hpermitted.2
      trivial
  | finalizers copy finalizers =>
      cases hpermitted with
      | taken hlive hmissing hobserved =>
          rcases hobserved with rfl | hvacant
          · trivial
          · exact (Stage.isClear_of_isVacant hvacant).2
      | orphaned hdeleting hpolicy => trivial
      | released hdeleting hgone => exact (Stage.isClear_of_isVacant hgone).2
  | announcement copy pending =>
      obtain ⟨-, announcement⟩ := hpermitted
      generalize hsame : Dictionary.singleton pendingKey (some pending) = changes at announcement
      cases announcement with
      | pending now => trivial
      | failed now => exact absurd hsame.symm (failed_ne_announcement _ _)
      | succeeded token now => exact absurd hsame.symm (successAnnotations_ne_announcement _ _ _)

theorem Setback.asks {act : Act} (hsetback : Setback resource act) : ¬ Asks act := by
  rintro (hrequests | hpublishes)
  · cases hsetback with
    | lost hpreparatory => cases hpreparatory <;> exact hrequests rfl
    | _ => exact hrequests rfl
  · cases hsetback with
    | lost hpreparatory => cases hpreparatory <;> exact hpublishes rfl
    | _ => exact hpublishes rfl

theorem isClear_of_asks {stage : Stage} {act : Act} (hasks : Asks act)
    (hpermitted : ∀ call, act.call? = some call → permits resource stage call) :
    stage.IsClear := by
  rcases hasks with hrequests | hpublishes
  · unfold requesting? at hrequests
    split at hrequests
    · rename_i request hput
      cases (hpermitted _ hput).2 with
      | createToken hlive groups => trivial
    · exact absurd rfl hrequests
  · unfold publishing? at hpublishes
    split at hpublishes
    · rename_i copy details hput
      obtain ⟨-, token, rfl, -⟩ := hpermitted _ hput
      trivial
    · exact absurd rfl hpublishes

theorem Turn.isClear {stage last : Stage} {act : Act} (hturn : Turn resource stage act last)
    (hclear : last.IsClear) : stage.IsClear ∧ ¬ Setback resource act := by
  cases hturn with
  | idle stage idle =>
      refine ⟨hclear, fun hsetback => ?_⟩
      cases idle <;> cases hsetback
  | held hlive hvacant copy => exact ⟨(Stage.isClear_of_isVacant hvacant).1, by rintro ⟨⟩⟩
  | announcing hlive hprepared now => exact ⟨(Stage.isClear_of_isHeld hprepared).1, by rintro ⟨⟩⟩
  | missing hadmitted hname hgone =>
      refine ⟨trivial, fun hsetback => ?_⟩
      cases hsetback with
      | unclear id unclear => simp [hgone] at unclear
  | chosen hlive catalog hsome =>
      refine ⟨trivial, fun hsetback => ?_⟩
      cases hsetback with
      | unmatched hnone => simp [hnone] at hsome
  | recorded | unrecorded =>
      refine ⟨trivial, fun hsetback => ?_⟩
      obtain ⟨pending, hsame⟩ := hsetback.announcement
      exact successAnnotations_ne_announcement _ _ _ hsame
  | spent | found | kept | released | unlisted | refused | failing | failed | revoked =>
      exact hclear.elim
  | _ => exact ⟨trivial, by rintro ⟨⟩⟩

theorem Turn.isUnasked {stage last : Stage} {act : Act} (hturn : Turn resource stage act last)
    (hunasked : last.IsUnasked) : stage.IsUnasked ∧ ¬ Asks act := by
  cases hturn with
  | idle stage idle =>
      refine ⟨hunasked, ?_⟩
      cases idle <;> rintro (hasks | hasks) <;> exact hasks rfl
  | held hlive hvacant copy =>
      exact ⟨(Stage.isClear_of_isVacant hvacant).2, by rintro (hasks | hasks) <;> exact hasks rfl⟩
  | released hdeleting hcustody copy =>
      exact ⟨Preparatory.isUnasked (.finalizers copy _) hcustody,
        by rintro (hasks | hasks) <;> exact hasks rfl⟩
  | announcing hlive hprepared now =>
      exact ⟨(Stage.isClear_of_isHeld hprepared).2, by rintro (hasks | hasks) <;> exact hasks rfl⟩
  | spent | unlisted | created | refused | failing | failed | recording | recorded | unrecorded
  | delivered => exact hunasked.elim
  | _ => exact ⟨trivial, by rintro (hasks | hasks) <;> exact hasks rfl⟩

/-- As long as nothing has failed there was no setback, as long as no token was asked for there was
no such question, and there is never both. -/
structure Apart (resource : Credentials) (stage : Stage) (acts : List Act) : Prop where
  clear : stage.IsClear → ∀ act ∈ acts, ¬ Setback resource act
  unasked : stage.IsUnasked → ∀ act ∈ acts, ¬ Asks act
  apart : (∀ act ∈ acts, ¬ Setback resource act) ∨ ∀ act ∈ acts, ¬ Asks act

theorem apart_of_kept (hkept : (protocol resource).Kept .start acts) :
    Apart resource ((protocol resource).stageAfter .start acts) acts := by
  induction acts with
  | nil => exact ⟨by simp, by simp, .inl (by simp)⟩
  | cons act before ih =>
      have hknown := ih hkept.1
      have hturn := turn_of_permitted hkept.2
      refine ⟨fun hclear => ?_, fun hunasked => ?_, ?_⟩
      · obtain ⟨hearlier, hnone⟩ := hturn.isClear hclear
        exact List.forall_mem_cons.mpr ⟨hnone, hknown.clear hearlier⟩
      · obtain ⟨hearlier, hnone⟩ := hturn.isUnasked hunasked
        exact List.forall_mem_cons.mpr ⟨hnone, hknown.unasked hearlier⟩
      · by_cases hsetback : Setback resource act
        · obtain ⟨call, hput, hpreparatory⟩ := hsetback.preparatory
          have hunasked := hpreparatory.isUnasked (hkept.2 call hput)
          exact .inr (List.forall_mem_cons.mpr ⟨hsetback.asks, hknown.unasked hunasked⟩)
        · by_cases hasks : Asks act
          · have hclear := isClear_of_asks hasks hkept.2
            exact .inl (List.forall_mem_cons.mpr ⟨hsetback, hknown.clear hclear⟩)
          · rcases hknown.apart with hnone | hnone
            · exact .inl (List.forall_mem_cons.mpr ⟨hsetback, hnone⟩)
            · exact .inr (List.forall_mem_cons.mpr ⟨hasks, hnone⟩)

/-! The discipline -/

/-- How a round goes about a creation. The acts are listed with the last of them first. -/
structure Precaution (resource : Credentials) (acts : List Act) : Prop where
  once : (requesting acts).length ≤ 1
  creation : ∀ after act before request, acts = after ++ act :: before →
    requesting? act = some request →
      resource.name ≠ "" ∧ resource.isDeleting = false ∧ resource.createIncomplete = false ∧
        ∃ groups, request = tokenRequest resource.spec.forProvider groups ∧
          Chosen resource groups before
  publication : ∀ after act before details, acts = after ++ act :: before →
    publishing? act = some details →
      ∃ token ∈ created before, details = detailsOf resource token
  stopped : (¬ Connected acts ∨ ∃ act ∈ acts, Setback resource act) →
    requesting acts = [] ∧ publishing acts = []

theorem call?_of_requesting? {act : Act} {request : TokenRequest}
    (hrequests : requesting? act = some request) :
    act.call? = some (.remote (.createToken request)) := by
  unfold requesting? at hrequests
  split at hrequests
  · cases hrequests
    assumption
  · cases hrequests

theorem call?_of_publishing? {act : Act} {details : ConnectionDetails}
    (hpublishes : publishing? act = some details) :
    ∃ copy, act.call? = some (.publish copy details) := by
  unfold publishing? at hpublishes
  split at hpublishes
  · cases hpublishes
    exact ⟨_, by assumption⟩
  · cases hpublishes

theorem silent_of_forall (hsilent : ∀ act ∈ acts, ¬ Asks act) :
    requesting acts = [] ∧ publishing acts = [] := by
  refine ⟨List.filterMap_eq_nil_iff.mpr fun act hmember => ?_,
    List.filterMap_eq_nil_iff.mpr fun act hmember => ?_⟩
  · cases hrequests : requesting? act with
    | none => rfl
    | some request => exact absurd (.inl (by simp [hrequests])) (hsilent act hmember)
  · cases hpublishes : publishing? act with
    | none => rfl
    | some details => exact absurd (.inr (by simp [hpublishes])) (hsilent act hmember)

theorem requested_once (hkept : (protocol resource).Kept .start acts) :
    (requesting acts).length ≤ 1 := by
  induction acts with
  | nil => exact Nat.zero_le 1
  | cons act before ih =>
      rw [requesting, List.filterMap_cons]
      cases hrequests : requesting? act with
      | none => exact ih hkept.1
      | some request =>
          -- The only stage at which a token may be asked for is one without such a question.
          have hunasked : ((protocol resource).stageAfter .start before).IsUnasked := by
            have hinquiry := (hkept.2 _ (call?_of_requesting? hrequests)).2
            generalize (protocol resource).stageAfter .start before = stage at hinquiry
            cases hinquiry with
            | createToken hlive groups => trivial
          have none := (silent_of_forall ((apart_of_kept hkept.1).unasked hunasked)).1
          rw [requesting] at none
          simp [none]

theorem Connected.of_then {step : Act → Prop} {earlier : List Act → Prop}
    (hbase : Then step earlier acts) (himplies : ∀ before, earlier before → Connected before) :
    Connected acts := by
  obtain ⟨after, act, before, rfl, -, hknown⟩ := hbase
  exact ((himplies before hknown).cons act).append after

theorem Unbound.connected (hunbound : Unbound resource acts) : Connected acts := by
  rcases hunbound with ⟨-, hconnected⟩ | hlooked
  · exact hconnected
  · exact .of_then hlooked fun _ hconnected => hconnected

theorem Chosen.connected {groups : List GroupReference} (hchosen : Chosen resource groups acts) :
    Connected acts := by
  refine .of_then hchosen fun before hannounced => .of_then hannounced fun earlier hsecured => ?_
  rcases hsecured with ⟨-, hunbound⟩ | hwritten
  · exact hunbound.connected
  · exact .of_then hwritten fun first hunbound => hunbound.connected

theorem creation_grounded (hkept : (protocol resource).Kept .start acts) {after before : List Act}
    {act : Act} {request : TokenRequest} (hsplit : acts = after ++ act :: before)
    (hrequests : requesting? act = some request) :
    resource.Open ∧ resource.isDeleting = false ∧
      ∃ groups, request = tokenRequest resource.spec.forProvider groups ∧
        Chosen resource groups before := by
  rw [hsplit] at hkept
  obtain ⟨hearlier, hadmitted, hinquiry⟩ := hkept.permitted (call?_of_requesting? hrequests)
  have hlaid := laid_of_kept hearlier
  generalize (protocol resource).stageAfter .start before = stage at hinquiry hlaid
  cases hinquiry with
  | createToken hlive groups => exact ⟨hadmitted, hlive, groups, rfl, hlaid⟩

theorem publication_grounded (hkept : (protocol resource).Kept .start acts)
    {after before : List Act} {act : Act} {details : ConnectionDetails}
    (hsplit : acts = after ++ act :: before) (hpublishes : publishing? act = some details) :
    ∃ token ∈ created before, details = detailsOf resource token := by
  obtain ⟨copy, hput⟩ := call?_of_publishing? hpublishes
  rw [hsplit] at hkept
  obtain ⟨hearlier, hlive, token, hstage, hsame⟩ := hkept.permitted hput
  refine ⟨token, ?_, hsame⟩
  have hheld := (created_of_kept hearlier).2
  rw [hstage] at hheld
  rw [hheld (by rintro ⟨⟩)]
  exact List.mem_cons_self

theorem requesting_of_created {token : Token} (hmember : token ∈ created acts) :
    requesting acts ≠ [] := by
  obtain ⟨act, hmember, hcreates⟩ := List.mem_filterMap.mp hmember
  unfold created? at hcreates
  split at hcreates
  · rename_i request answer
    exact List.ne_nil_of_mem (List.mem_filterMap.mpr ⟨_, hmember, rfl⟩)
  · cases hcreates

/-- What is handed on is a token that was asked for. -/
theorem silent_of_requesting (hkept : (protocol resource).Kept .start acts)
    (hsilent : requesting acts = []) : publishing acts = [] := by
  refine List.filterMap_eq_nil_iff.mpr fun act hmember => ?_
  cases hpublishes : publishing? act with
  | none => rfl
  | some details =>
      obtain ⟨after, before, hsplit⟩ := List.append_of_mem hmember
      obtain ⟨token, hcreated, -⟩ := publication_grounded hkept hsplit hpublishes
      have hmember : token ∈ Issuance.created acts := by
        rw [hsplit, Issuance.created, List.filterMap_append, List.filterMap_cons]
        refine List.mem_append_right _ ?_
        split
        · exact hcreated
        · exact List.mem_cons_of_mem _ hcreated
      exact absurd hsilent (requesting_of_created hmember)

theorem precaution (hkept : (protocol resource).Kept .start acts) : Precaution resource acts where
  once := requested_once hkept
  creation after act before request hsplit requests := by
    obtain ⟨hadmitted, hlive, hgrounded⟩ := creation_grounded hkept hsplit requests
    exact ⟨by simpa using hadmitted.1, hlive, hadmitted.2.2 hlive, hgrounded⟩
  publication after act before details hsplit publishes :=
    publication_grounded hkept hsplit publishes
  stopped obstacle := by
    rcases obstacle with hunconnected | ⟨act, hmember, hsetback⟩
    · have hsilent : requesting acts = [] := by
        refine List.filterMap_eq_nil_iff.mpr fun act hmember => ?_
        cases requests : requesting? act with
        | none => rfl
        | some request =>
            obtain ⟨after, before, rfl⟩ := List.append_of_mem hmember
            obtain ⟨-, -, groups, -, hchosen⟩ := creation_grounded hkept rfl requests
            exact absurd ((hchosen.connected.cons act).append after) hunconnected
      exact ⟨hsilent, silent_of_requesting hkept hsilent⟩
    · rcases (apart_of_kept hkept).apart with none | hsilent
      · exact absurd hsetback (none act hmember)
      · exact silent_of_forall hsilent

/-- Whatever a round is answered, it asks for at most one token, and only behind all that is to be
laid down before; without it, it hands nothing on either. -/
theorem creation_follows_groundwork (options : PassOptions) (resource : Credentials)
    {moments : List (Moment (Round.interface interface))}
    {rest : Option (Script (Round.interface interface) Credentials Round.Outcome)}
    (reached : (Round.run connector options resource).Reaches moments rest) :
    Precaution resource (moments.filterMap Round.told) :=
  precaution (Round.reaches_told (round_keeps resource options) reached).1

def bereft : Credentials := applicant.setExternalName "former"

theorem creation_follows_groundwork_bereft :
    ∃ moments rest, (Round.run connector habits bereft).Reaches moments rest ∧
      requesting (moments.filterMap Round.told) =
        [tokenRequest bereft.spec.forProvider [⟨"group", some readGroupName⟩]] ∧
      Precaution bereft (moments.filterMap Round.told) := by
  have hreached := reaches_rehearsal 1717200000 (obliging none (tokenNamed "token")) habits bereft
  exact ⟨_, _, hreached, by decide +kernel, creation_follows_groundwork habits bereft hreached⟩

end BucketKeys.Issuance
