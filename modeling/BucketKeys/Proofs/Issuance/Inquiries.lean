import BucketKeys.Proofs.Authentication.Sources
import BucketKeys.Proofs.Issuance.Protocol
import BucketKeys.Proofs.Script.Work

/-!
The client of the token service keeps to the protocol of a pass: connecting, observing, revoking and
creating, each from the stages at which a pass calls for it.
-/

namespace BucketKeys.Issuance

open TokenApi

variable {resource held : Credentials}

def remoteProtocol (resource : Credentials) : Protocol interface Stage :=
  (protocol resource).pull Pass.Call.remote fun _ answer => answer

def loginProtocol (resource : Credentials) : Protocol Authentication.interface Stage :=
  (remoteProtocol resource).pull Call.authentication fun _ answer => answer

@[simp] theorem remoteProtocol_permits {stage : Stage} {call : Call} :
    (remoteProtocol resource).permits stage call ↔ resource.Open ∧ Inquiry resource stage call :=
  Iff.rfl

theorem keeps_ofRemote {ends : Stage → Credentials → Except Fault α → Prop}
    {work : Step α} {stage : Stage}
    (hkeeps : (work held).Keeps (remoteProtocol resource) ends stage) :
    ((Pass.ofRemote work) held).Keeps (protocol resource) ends stage :=
  Script.keeps_through (fun _ _ => rfl) hkeeps

theorem extract_keeps (hadmitted : resource.Open) (credentials : ProviderCredentials) :
    (Authentication.extract credentials held).Keeps (loginProtocol resource)
      (fun stage after _ => stage = .start ∧ after = held) .start := by
  have hpermitted (call : Authentication.Call) :
      (loginProtocol resource).permits .start call := ⟨hadmitted, .authentication call⟩
  rw [Authentication.extract_eq]
  cases Authentication.choice credentials with
  | error fault => exact ⟨rfl, rfl⟩
  | ok source =>
      refine Work.keeps_ask_then (hpermitted _) fun answer => ?_
      exact Work.keeps_ofExcept.mpr ⟨rfl, rfl⟩

theorem resolve_keeps (hadmitted : resource.Open) (consumer : Credentials) :
    (Authentication.resolve consumer held).Keeps (loginProtocol resource)
      (fun stage after _ => stage = .start ∧ after = held) .start := by
  have hpermitted (call : Authentication.Call) :
      (loginProtocol resource).permits .start call := ⟨hadmitted, .authentication call⟩
  unfold Authentication.resolve
  cases consumer.spec.providerConfigRef.filter (!·.name.isEmpty) with
  | none => exact ⟨rfl, rfl⟩
  | some reference =>
      refine Work.keeps_ask_then (hpermitted _) fun config => ?_
      cases (config : Except Fault ProviderConfigSpec) with
      | error fault => exact ⟨rfl, rfl⟩
      | ok config =>
          refine Work.keeps_ask_then (hpermitted _) fun tracked => ?_
          cases (tracked : Except Fault Unit) with
          | error fault => exact ⟨rfl, rfl⟩
          | ok tracked =>
              refine Work.keeps_andThen (extract_keeps hadmitted config.credentials) ?_ ?_
              · intro stage after data hknown
                obtain ⟨rfl, rfl⟩ := hknown
                exact Work.keeps_ofExcept.mpr ⟨rfl, rfl⟩
              · intro stage after fault hknown
                obtain ⟨rfl, rfl⟩ := hknown
                exact ⟨rfl, rfl⟩

theorem authenticated_keeps {work : Work Authentication.interface Credentials α}
    (hkeeps : (work held).Keeps (loginProtocol resource)
      (fun stage after _ => stage = .start ∧ after = held) .start) :
    (authenticated work held).Keeps (remoteProtocol resource)
      (fun stage after _ => stage = .start ∧ after = held) .start := by
  have hcarried : ((work.through Call.authentication fun _ answer => answer : Step α) held).Keeps
      (remoteProtocol resource) (fun stage after _ => stage = .start ∧ after = held) .start :=
    Script.keeps_through (fun _ _ => rfl) hkeeps
  refine Work.keeps_bind.mpr (Work.keeps_attempt.mpr (hcarried.imp ?_))
  intro stage after result hknown
  obtain ⟨rfl, rfl⟩ := hknown
  cases result with
  | ok value => exact ⟨rfl, rfl⟩
  | error fault => exact ⟨rfl, rfl⟩

theorem connect_keeps (hadmitted : resource.Open) :
    (connect held).Keeps (remoteProtocol resource)
      (fun stage after result => after = held ∧
        ∀ found, result = .ok found → stage = .connected ∧ found = client) .start := by
  have login : ((Authentication.resolve held >>= fun login => Work.ofExcept login.token) held).Keeps
      (loginProtocol resource) (fun stage after _ => stage = .start ∧ after = held) .start := by
    refine Work.keeps_andThen (resolve_keeps hadmitted held) ?_ ?_
    · intro stage after login hknown
      obtain ⟨rfl, rfl⟩ := hknown
      exact Work.keeps_ofExcept.mpr ⟨rfl, rfl⟩
    · intro stage after fault hknown
      obtain ⟨rfl, rfl⟩ := hknown
      exact ⟨rfl, rfl⟩
  refine Work.keeps_bind.mpr (Work.keeps_held.mpr ?_)
  refine Work.keeps_andThen (authenticated_keeps login) ?_ ?_
  · intro stage after apiToken hknown
    obtain ⟨rfl, rfl⟩ := hknown
    refine Work.keeps_ask_then ⟨hadmitted, .authenticate apiToken⟩ fun _ => ⟨rfl, ?_⟩
    intro found hsame
    cases hsame
    exact ⟨rfl, rfl⟩
  · intro stage after fault hknown
    obtain ⟨rfl, rfl⟩ := hknown
    refine ⟨rfl, ?_⟩
    intro found hsame
    cases hsame

/-- The copies differ in nothing but the status. -/
def Alike (first second : Credentials) : Prop :=
  first.metadata = second.metadata ∧ first.spec = second.spec

theorem clockRead_present {now : Time.Instant} :
    clockRead resource .present now = .present := by
  simp [clockRead, Stage.isHeld, Stage.isVacant]

theorem observe_keeps (hadmitted : resource.Open) (halike : Alike held resource) :
    (observe held).Keeps (remoteProtocol resource)
      (fun stage after result => Alike after resource ∧ ∀ seen, result = .ok seen →
        (seen = .current ∧ stage = .present) ∨
          (seen = .absent ∧ stage.isVacant resource = true)) .connected := by
  have hname : held.externalName? = resource.externalName? := by
    simp only [Credentials.externalName?, Credentials.annotationOf?, halike.1]
  refine Work.keeps_bind.mpr (Work.keeps_held.mpr ?_)
  rw [Work.leads_ok]
  cases hbound : held.externalName? with
  | none =>
      refine ⟨halike, ?_⟩
      intro seen hsame
      cases hsame
      right
      simp [Stage.isVacant, ← hname, hbound]
  | some id =>
      refine Work.keeps_ask_then ⟨hadmitted, .getToken (hname ▸ hbound)⟩ fun answer => ?_
      cases (answer : Except Failure Token) with
      | error failure =>
          by_cases hmissing : failure.isNotFound = true
          · simp only [hmissing, if_true]
            refine ⟨halike, ?_⟩
            intro seen hsame
            cases hsame
            right
            refine ⟨rfl, ?_⟩
            change Stage.isVacant resource (afterLook (.error failure)) = true
            simp [afterLook, hmissing, Stage.isVacant]
          · simp only [hmissing]
            refine ⟨halike, ?_⟩
            intro seen hsame
            cases hsame
      | ok token =>
          intro now
          refine ⟨halike, ?_⟩
          intro seen hsame
          cases hsame
          left
          exact ⟨rfl, clockRead_present⟩

theorem delete_keeps (hadmitted : resource.Open) (hdeleting : resource.isDeleting = true)
    (halike : Alike held resource) :
    (delete held).Keeps (remoteProtocol resource)
      (fun stage _ result => result = .ok () → stage = .present ∨ stage = .revoked) .present := by
  have hname : held.externalName? = resource.externalName? := by
    simp only [Credentials.externalName?, Credentials.annotationOf?, halike.1]
  refine Work.keeps_bind.mpr (Work.keeps_held.mpr ?_)
  rw [Work.leads_ok]
  cases hbound : held.externalName? with
  | none => exact fun _ => .inl rfl
  | some id =>
      refine Work.keeps_ask_then ⟨hadmitted, .deleteToken hdeleting (hname ▸ hbound)⟩
          fun answer => ?_
      cases (answer : Except Failure Unit) with
      | ok done => exact fun _ => .inr rfl
      | error failure =>
          by_cases hmissing : failure.isNotFound = true
          · simp only [hmissing, if_true]
            intro _
            right
            change afterRevocation (.error failure) = .revoked
            simp [afterRevocation, hmissing]
          · simp only [hmissing]
            intro hsame
            cases hsame

inductive Issued (resource : Credentials) :
    Stage → Credentials → Except Fault ConnectionDetails → Prop where
  | refused (copy : Credentials) (fault : Fault) : Issued resource .refused copy (.error fault)
  | created {copy : Credentials} (token : Token) (name : copy.externalName? = recordedName token) :
      Issued resource (.created token) copy (.ok (detailsOf resource token))

theorem create_keeps (hadmitted : resource.Open) (hlive : resource.isDeleting = false)
    (hspec : held.spec = resource.spec) :
    (create held).Keeps (remoteProtocol resource) (Issued resource) .announced := by
  refine Work.keeps_bind.mpr (Work.keeps_held.mpr ?_)
  have hlookedUp : (lookupGroups held.spec.forProvider.permissions held).Keeps
      (remoteProtocol resource) (fun stage copy result => copy = held ∧
        match result with
        | .ok groups => stage = .chosen groups
        | .error _ => stage = .refused) .announced := by
    refine Work.keeps_ask_then ⟨hadmitted, .listPermissionGroups hlive⟩ fun answer => ?_
    rw [hspec]
    cases (answer : Except Failure (List PermissionGroup)) with
    | error failure => exact ⟨rfl, rfl⟩
    | ok catalog =>
        change Script.Keeps _ _ _ (afterCatalog resource.spec.forProvider.permissions (.ok catalog))
        cases hempty : (selectGroups catalog resource.spec.forProvider.permissions).isEmpty with
        | true => simp [afterCatalog, hempty]
        | false => simp [afterCatalog, hempty]
  refine Work.keeps_andThen hlookedUp ?_ ?_
  · intro stage copy groups hknown
    obtain ⟨rfl, rfl⟩ := hknown
    rw [hspec]
    refine Work.keeps_ask_then ⟨hadmitted, .createToken hlive groups⟩ fun answer => ?_
    cases (answer : Except Failure Token) with
    | error failure => exact .refused copy _
    | ok token =>
        refine .created token ?_
        simp [Credentials.externalName?, Credentials.setExternalName,
          Credentials.annotationOf?_annotate, recordedName]
  · intro stage copy fault hknown
    obtain ⟨rfl, rfl⟩ := hknown
    exact .refused copy fault

end BucketKeys.Issuance
