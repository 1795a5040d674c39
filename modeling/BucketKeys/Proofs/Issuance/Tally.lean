import BucketKeys.Proofs.Authentication.Sources
import BucketKeys.Proofs.Issuance.Acts
import BucketKeys.Proofs.Script.Ledger

/-!
The books of a pass: which tokens it saw, created and revoked, and why its resource is due again.
Each part of a pass enters what it is to enter, and fails in no way that another pass could not
mend, as long as the store and the publisher fail each in its own way.
-/

namespace BucketKeys.Issuance

open Bookkeeping TokenApi

def seen? : Act → Option Token
  | .lookedUp _ (.ok token) => some token
  | _ => none

def requeueing? : Act → Option String
  | .counted (.requeued reason) => some reason
  | _ => none

/-- What a pass did at the token service, and why its resource is due again. -/
structure Tally where
  seen : List Token
  created : List Token
  revoking : List String
  requeued : List String

def tally (acts : List Act) : Tally :=
  ⟨acts.filterMap seen?, created acts, revoking acts, acts.filterMap requeueing?⟩

/-- A write of the stored resource fails as one. -/
def isOfStore : Except Fault Unit → Bool
  | .ok () => true
  | .error (.store _) => true
  | .error _ => false

def isOfPublisher : Except Fault Unit → Bool
  | .ok () => true
  | .error (.connectionPublishFailed _) => true
  | .error _ => false

def isProper : Act → Bool
  | .annotated _ _ answer => isOfStore answer
  | .finalized _ _ answer => isOfStore answer
  | .reported _ answer => isOfStore answer
  | .published _ _ answer => isOfPublisher answer
  | _ => true

def Mendable : Except Fault α → Prop
  | .ok _ => True
  | .error fault => fault.isFatal = false

theorem mendable_of_isOfStore {answer : Except Fault Unit} (hown : isOfStore answer = true) :
    Mendable answer := by
  unfold isOfStore at hown
  split at hown
  · trivial
  · rfl
  · cases hown

theorem mendable_of_isOfPublisher {answer : Except Fault Unit}
    (hown : isOfPublisher answer = true) : Mendable answer := by
  unfold isOfPublisher at hown
  split at hown
  · trivial
  · rfl
  · cases hown

def chronicle : Ledger (Pass.interface interface) (List Act) :=
  .whole fun act => isProper act = true

def remoteChronicle : Ledger interface (List Act) :=
  chronicle.pull Pass.Call.remote fun _ answer => answer

def loginChronicle : Ledger Authentication.interface (List Act) :=
  remoteChronicle.pull Call.authentication fun _ answer => answer

variable {held : Credentials} {before : List Act}

theorem yields_ofRemote {ends : List Act → Credentials → Except Fault α → Prop}
    {work : Step α} (hyields : (work held).Yields remoteChronicle ends before) :
    ((Pass.ofRemote work) held).Yields chronicle ends before :=
  Script.yields_through (fun _ _ => rfl) hyields

/-- Work that leaves the tally and the copy as they are, and nothing that another pass could not
mend. -/
def Quiet (before : List Act) (held : Credentials) (acts : List Act) (copy : Credentials)
    (result : Except Fault α) : Prop :=
  tally acts = tally before ∧ copy = held ∧ Mendable result

theorem updateAnnotations_quiet (changes : Dictionary (Option String)) :
    ((Pass.updateAnnotations changes : Pass.Step interface Unit) held).Yields chronicle
      (Quiet before held) before := by
  refine Work.yields_bind.mpr (Work.yields_ask_then fun answer hrelied => ?_)
  exact Work.yields_ofExcept.mpr ⟨rfl, rfl, mendable_of_isOfStore hrelied⟩

theorem updateFinalizers_quiet (finalizers : List String) :
    ((Pass.updateFinalizers finalizers : Pass.Step interface Unit) held).Yields chronicle
      (Quiet before held) before := by
  refine Work.yields_bind.mpr (Work.yields_ask_then fun answer hrelied => ?_)
  exact Work.yields_ofExcept.mpr ⟨rfl, rfl, mendable_of_isOfStore hrelied⟩

theorem publishAny_quiet (details : ConnectionDetails) :
    ((Pass.publishAny details : Pass.Step interface Unit) held).Yields chronicle
      (Quiet before held) before := by
  unfold Pass.publishAny
  cases details.isEmpty with
  | true => exact ⟨rfl, rfl, trivial⟩
  | false =>
      refine Work.yields_bind.mpr (Work.yields_ask_then fun answer hrelied => ?_)
      exact Work.yields_ofExcept.mpr ⟨rfl, rfl, mendable_of_isOfPublisher hrelied⟩

theorem recordFrom_quiet (changes : Dictionary (Option String)) (number more : Nat) :
    ((Pass.recordFrom changes number more : Pass.Step interface Unit) held).Yields chronicle
      (Quiet before held) before := by
  induction more generalizing number before with
  | zero => exact updateAnnotations_quiet changes
  | succ more ih =>
      refine Work.yields_bind.mpr (Work.yields_attempt.mpr
        ((updateAnnotations_quiet changes).imp ?_))
      rintro acts copy result ⟨hsame, rfl, -⟩
      cases result with
      | ok done => exact ⟨hsame, rfl, trivial⟩
      | error fault =>
          refine Work.yields_bind.mpr (Work.yields_ask_then fun _ _ => ?_)
          refine (ih (number + 1)).imp ?_
          rintro later copy result ⟨hstill, rfl, hmendable⟩
          exact ⟨hstill.trans hsame, rfl, hmendable⟩

theorem extract_quiet (credentials : ProviderCredentials) :
    (Authentication.extract credentials held).Yields loginChronicle
      (fun acts copy _ => tally acts = tally before ∧ copy = held) before := by
  rw [Authentication.extract_eq]
  cases Authentication.choice credentials with
  | error fault => exact ⟨rfl, rfl⟩
  | ok source => exact Work.yields_ask_then fun answer _ => Work.yields_ofExcept.mpr ⟨rfl, rfl⟩

theorem resolve_quiet (consumer : Credentials) :
    (Authentication.resolve consumer held).Yields loginChronicle
      (fun acts copy _ => tally acts = tally before ∧ copy = held) before := by
  unfold Authentication.resolve
  cases consumer.spec.providerConfigRef.filter (!·.name.isEmpty) with
  | none => exact ⟨rfl, rfl⟩
  | some reference =>
      refine Work.yields_ask_then fun config _ => ?_
      cases (config : Except Fault ProviderConfigSpec) with
      | error fault => exact ⟨rfl, rfl⟩
      | ok config =>
          refine Work.yields_ask_then fun tracked _ => ?_
          cases (tracked : Except Fault Unit) with
          | error fault => exact ⟨rfl, rfl⟩
          | ok tracked =>
              refine Work.yields_andThen (extract_quiet config.credentials) ?_ fun _ _ _ => id
              rintro acts copy data ⟨hsame, rfl⟩
              exact Work.yields_ofExcept.mpr ⟨hsame, rfl⟩

theorem authenticated_quiet {work : Work Authentication.interface Credentials α}
    (hquiet : (work held).Yields loginChronicle
      (fun acts copy _ => tally acts = tally before ∧ copy = held) before) :
    (authenticated work held).Yields remoteChronicle (Quiet before held) before := by
  have hcarried : ((work.through Call.authentication fun _ answer => answer : Step α) held).Yields
      remoteChronicle (fun acts copy _ => tally acts = tally before ∧ copy = held) before :=
    Script.yields_through (fun _ _ => rfl) hquiet
  refine Work.yields_bind.mpr (Work.yields_attempt.mpr (hcarried.imp ?_))
  rintro acts copy result ⟨hsame, rfl⟩
  cases result with
  | ok value => exact ⟨hsame, rfl, trivial⟩
  | error fault => exact ⟨hsame, rfl, fault.isFatal_unauthenticated⟩

theorem connect_quiet :
    (connect held).Yields remoteChronicle
      (fun acts copy result => Quiet before held acts copy result ∧
        ∀ found, result = .ok found → found = client) before := by
  have login :
      ((Authentication.resolve held >>= fun login => Work.ofExcept login.token) held).Yields
      loginChronicle (fun acts copy _ => tally acts = tally before ∧ copy = held) before := by
    refine Work.yields_andThen (resolve_quiet held) ?_ fun _ _ _ => id
    rintro acts copy login ⟨hsame, rfl⟩
    exact Work.yields_ofExcept.mpr ⟨hsame, rfl⟩
  refine Work.yields_bind.mpr ?_
  refine Work.yields_andThen (authenticated_quiet login) ?_ ?_
  · rintro acts copy apiToken ⟨hsame, rfl, -⟩
    refine Work.yields_ask_then fun _ _ => ⟨⟨hsame, rfl, trivial⟩, ?_⟩
    rintro found ⟨⟩
    rfl
  · rintro acts copy fault hquiet
    refine ⟨hquiet, ?_⟩
    rintro found ⟨⟩

inductive Sighting (before : List Act) (held : Credentials) :
    List Act → Credentials → Except Fault Pass.Observation → Prop where
  | absent {acts : List Act} (same : tally acts = tally before) :
      Sighting before held acts held (.ok .absent)
  | present {acts : List Act} {id : String} (name : held.externalName? = some id) (token : Token)
      (seen : tally acts = { tally before with seen := token :: (tally before).seen })
      (now : Time.Instant) :
      Sighting before held acts
        ((held.setObservation (observation token held.spec.forProvider.accountId)).setCondition
          ((if token.isUsable then Condition.available else Condition.unavailable) now))
        (.ok .current)
  | failed {acts : List Act} {fault : Fault} (mendable : fault.isFatal = false) :
      Sighting before held acts held (.error fault)

theorem observe_sighting : (observe held).Yields remoteChronicle (Sighting before held) before := by
  refine Work.yields_held_then ?_
  cases hbound : held.externalName? with
  | none => exact .absent rfl
  | some id =>
      refine Work.yields_ask_then fun answer _ => ?_
      cases (answer : Except Failure Token) with
      | error failure =>
          by_cases hmissing : failure.isNotFound = true
          · simp only [hmissing, if_true]
            exact .absent rfl
          · simp only [hmissing]
            exact .failed rfl
      | ok token => exact fun now _ => .present hbound token rfl now

theorem delete_tally :
    (delete held).Yields remoteChronicle
      (fun acts copy result => copy = held ∧ Mendable result ∧
        tally acts = { tally before with
          revoking := held.externalName?.toList ++ (tally before).revoking }) before := by
  refine Work.yields_held_then ?_
  cases hbound : held.externalName? with
  | none => exact ⟨rfl, trivial, rfl⟩
  | some id =>
      refine Work.yields_ask_then fun answer _ => ?_
      cases (answer : Except Failure Unit) with
      | ok done => exact ⟨rfl, trivial, rfl⟩
      | error failure =>
          by_cases hmissing : failure.isNotFound = true
          · simp only [hmissing, if_true]
            exact ⟨rfl, trivial, rfl⟩
          · simp only [hmissing]
            exact ⟨rfl, rfl, rfl⟩

theorem lookupGroups_quiet (permissions : List Permission) :
    (lookupGroups permissions held).Yields remoteChronicle (Quiet before held) before := by
  refine Work.yields_ask_then fun answer _ => ?_
  cases (answer : Except Failure (List PermissionGroup)) with
  | error failure => exact ⟨rfl, rfl, rfl⟩
  | ok catalog =>
      dsimp only
      cases (selectGroups catalog permissions).isEmpty with
      | true => exact ⟨rfl, rfl, rfl⟩
      | false => exact ⟨rfl, rfl, trivial⟩

theorem create_tally :
    (create held).Yields remoteChronicle
      (fun acts copy result => Mendable result ∧ ∀ details, result = .ok details →
        ∃ token : Token, copy = held.setExternalName token.id ∧
          tally acts = { tally before with created := token :: (tally before).created })
      before := by
  refine Work.yields_held_then ?_
  refine Work.yields_andThen (lookupGroups_quiet _) ?_ ?_
  · rintro acts copy groups ⟨hsame, rfl, -⟩
    refine Work.yields_ask_then fun answer _ => ?_
    cases (answer : Except Failure Token) with
    | error failure =>
        refine ⟨rfl, ?_⟩
        rintro details ⟨⟩
    | ok token =>
        refine ⟨trivial, ?_⟩
        rintro details -
        refine ⟨token, rfl, ?_⟩
        rw [← hsame]
        rfl
  · rintro acts copy fault ⟨-, -, hmendable⟩
    refine ⟨hmendable, ?_⟩
    rintro details ⟨⟩

end BucketKeys.Issuance
