import BucketKeys.Pass.Basic
import BucketKeys.Proofs.Secrecy.Disguise

/-!
Passes, rounds and the service do alike what they are answered alike: no secret decides on anything
that can be seen.
-/

namespace BucketKeys

/-! The credentials of the controller -/

namespace Authentication

theorem ask_twins (call : Call) :
    Work.Twins likeness (alike call call) (ask call : Work interface σ (Answer call)) (ask call) :=
  .ask rfl

theorem extract_twins (credentials : ProviderCredentials) :
    Work.Twins likeness Disguised (extract credentials : Work interface σ Bytes)
      (extract credentials) := by
  unfold extract
  cases credentials.source with
  | none => exact .fail _
  | secret =>
      cases credentials.secretRef with
      | none => exact .fail _
      | some selector => exact (ask_twins (.secretKey selector)).bind fun _ _ => .ofExcept
  | environment =>
      cases credentials.env with
      | none => exact .fail _
      | some name =>
          refine (ask_twins (.variable name)).bind fun answer reply htold => ?_
          cases (htold : Results _ (answer : Except VariableFault String) reply) with
          | ok hdisguised => exact .pure hdisguised
          | error fault => exact .fail _
  | filesystem =>
      cases credentials.fs with
      | none => exact .fail _
      | some path =>
          refine (ask_twins (.file path)).bind fun answer reply htold => ?_
          cases (htold : Results _ (answer : Except String Bytes) reply) with
          | ok hdisguised => exact .pure hdisguised
          | error message => exact .fail _

theorem resolve_twins (resource : Credentials) :
    Work.Twins likeness (fun login other : Login => login.apiToken.isSome = other.apiToken.isSome)
      (resolve resource : Work interface σ Login) (resolve resource) := by
  unfold resolve
  cases resource.spec.providerConfigRef.filter (!·.name.isEmpty) with
  | none => exact .fail _
  | some reference =>
      refine (ask_twins (.providerConfig reference.name)).bind fun config other hsame => ?_
      obtain rfl : (config : Except Fault ProviderConfigSpec) = other := hsame
      refine Work.Twins.bind_eq (.ofExcept (.same (fun _ => rfl) config)) fun config => ?_
      refine (ask_twins (.track reference resource.reference)).bind fun tracked other hsame => ?_
      obtain rfl : (tracked : Except Fault Unit) = other := hsame
      cases (tracked : Except Fault Unit) with
      | error fault => exact .fail _
      | ok tracked =>
          exact (extract_twins config.credentials).bind fun _ _ hdisguised =>
            .ofExcept hdisguised.login

end Authentication

/-! The client of the token service -/

namespace Issuance

open TokenApi

theorem ask_twins (call : Call) {other : Call} (hsame : shown call = shown other) :
    Work.Twins likeness (alike call other) (ask call : Step (Answer call)) (ask other) :=
  .ask hsame

theorem authenticated_twins {ends : α → β → Prop}
    {work : Work Authentication.interface Credentials α}
    {other : Work Authentication.interface Credentials β}
    (htwins : Work.Twins Authentication.likeness ends work other) :
    Work.Twins likeness ends (authenticated work) (authenticated other) := by
  have hcarried : Work.Twins likeness ends
      (work.through (J := interface) Call.authentication fun _ answer => answer)
      (other.through (J := interface) Call.authentication fun _ answer => answer) :=
    htwins.through (fun _ _ hsame => congrArg Call.authentication hsame) fun _ _ _ _ => id
  refine hcarried.attempt.bind fun result instead halike => ?_
  cases halike with
  | ok halike => exact .pure halike
  | error fault => exact .fail _

theorem token_alike {login other : Authentication.Login}
    (hboth : login.apiToken.isSome = other.apiToken.isSome) :
    Results (fun _ _ => True) login.token other.token := by
  unfold Authentication.Login.token
  cases hgiven : login.apiToken with
  | none =>
      rw [hgiven] at hboth
      rw [Option.isSome_eq_false_iff.mp hboth.symm |> Option.isNone_iff_eq_none.mp]
      exact .error _
  | some apiToken =>
      rw [hgiven] at hboth
      obtain ⟨instead, hpresent⟩ := Option.isSome_iff_exists.mp hboth.symm
      rw [hpresent]
      exact .ok trivial

theorem connect_twins :
    Work.Twins likeness (fun found other => found = client ∧ other = client) connect connect := by
  refine Work.Twins.bind_eq .held fun resource => ?_
  have login : Work.Twins Authentication.likeness (fun _ _ => True)
      ((Authentication.resolve resource >>= fun login => Work.ofExcept login.token :
        Work Authentication.interface Credentials String))
      (Authentication.resolve resource >>= fun login => Work.ofExcept login.token) := by
    exact (Authentication.resolve_twins resource).bind fun _ _ hboth => .ofExcept
        (token_alike hboth)
  refine (authenticated_twins login).bind fun apiToken other _ => ?_
  have hunseen : shown (.authenticate apiToken) = shown (.authenticate other) := rfl
  exact (ask_twins (.authenticate apiToken) hunseen).bind fun _ _ _ => .pure ⟨rfl, rfl⟩

theorem observe_twins : Work.Twins likeness Eq observe observe := by
  refine Work.Twins.bind_eq .held fun resource => ?_
  cases resource.externalName? with
  | none => exact .pure rfl
  | some id =>
      refine (ask_twins (.getToken id) rfl).bind fun answer reply hsame => ?_
      obtain rfl : (answer : Except Failure Token) = reply := hsame
      cases (answer : Except Failure Token) with
      | error failure =>
          dsimp only
          split
          · exact .pure rfl
          · exact .fail _
      | ok token =>
          refine Work.Twins.bind_eq (.modify _) fun _ => ?_
          refine Work.Twins.bind_eq (Work.Twins.bind_eq .now fun _ => .modify _) fun _ => .pure rfl

theorem delete_twins : Work.Twins likeness Eq delete delete := by
  refine Work.Twins.bind_eq .held fun resource => ?_
  cases resource.externalName? with
  | none => exact .pure rfl
  | some id =>
      refine (ask_twins (.deleteToken id) rfl).bind fun answer reply hsame => ?_
      obtain rfl : (answer : Except Failure Unit) = reply := hsame
      cases (answer : Except Failure Unit) with
      | ok done => exact .pure rfl
      | error failure =>
          dsimp only
          split
          · exact .pure rfl
          · exact .fail _

theorem lookupGroups_twins (permissions : List Permission) :
    Work.Twins likeness Eq (lookupGroups permissions : Step (List GroupReference))
      (lookupGroups permissions) := by
  refine (ask_twins (.listPermissionGroups) rfl).bind fun answer reply hsame => ?_
  obtain rfl : (answer : Except Failure (List PermissionGroup)) = reply := hsame
  cases (answer : Except Failure (List PermissionGroup)) with
  | error failure => exact .fail _
  | ok catalog =>
      dsimp only
      split
      · exact .fail _
      · exact .pure rfl

theorem create_twins :
    Work.Twins likeness (fun details other => redacted details = redacted other) create create := by
  refine Work.Twins.bind_eq .held fun resource => ?_
  refine Work.Twins.bind_eq (lookupGroups_twins _) fun groups => ?_
  refine (ask_twins (.createToken (tokenRequest resource.spec.forProvider groups)) rfl).bind
    fun answer reply htold => ?_
  cases (htold : Results _ (answer : Except Failure Token) reply) with
  | error failure => exact .fail _
  | @ok token other hsame =>
      have hid := congrArg Token.id hsame
      change token.id = other.id at hid
      dsimp only
      rw [hid]
      exact Work.Twins.bind_eq (.modify _) fun _ => .pure (redacted_connectionDetails ..)

end Issuance

/-! The pass -/

namespace Pass

theorem ofRemote_twins {ends : α → β → Prop} {work : Issuance.Step α} {other : Issuance.Step β}
    (htwins : Work.Twins Issuance.likeness ends work other) :
    Work.Twins likeness ends (ofRemote work) (ofRemote other) :=
  htwins.through (fun _ _ hsame => congrArg Call.remote hsame) fun _ _ _ _ => id

theorem ask_twins (call : Call Issuance.interface) {other : Call Issuance.interface}
    (hsame : shown call = shown other) :
    Work.Twins likeness (alike call other) (ask call : Step Issuance.interface (Answer call))
      (ask other) :=
  .ask hsame

theorem updateAnnotations_twins (changes : Dictionary (Option String)) :
    Work.Twins likeness Eq (updateAnnotations changes : Step Issuance.interface Unit)
      (updateAnnotations changes) := by
  refine Work.Twins.bind_eq .held fun resource => ?_
  refine (ask_twins (.updateAnnotations resource changes) rfl).bind fun answer reply hsame => ?_
  obtain rfl : (answer : Except Fault Unit) = reply := hsame
  exact .ofExcept (.same (fun _ => rfl) _)

theorem updateFinalizers_twins (finalizers : List String) :
    Work.Twins likeness Eq (updateFinalizers finalizers : Step Issuance.interface Unit)
      (updateFinalizers finalizers) := by
  refine Work.Twins.bind_eq .held fun resource => ?_
  refine (ask_twins (.updateFinalizers resource finalizers) rfl).bind fun answer reply hsame => ?_
  obtain rfl : (answer : Except Fault Unit) = reply := hsame
  exact .ofExcept (.same (fun _ => rfl) _)

theorem updateStatus_twins :
    Work.Twins likeness Eq (updateStatus : Step Issuance.interface Unit) updateStatus := by
  refine Work.Twins.bind_eq .held fun resource => ?_
  refine (ask_twins (.updateStatus resource) rfl).bind fun answer reply hsame => ?_
  obtain rfl : (answer : Except Fault Unit) = reply := hsame
  exact .ofExcept (.same (fun _ => rfl) _)

theorem publish_twins {details other : ConnectionDetails}
    (halike : Issuance.redacted details = Issuance.redacted other) :
    Work.Twins likeness Eq (publish details : Step Issuance.interface Unit) (publish other) := by
  refine Work.Twins.bind_eq .held fun resource => ?_
  have hunseen : shown (.publish resource details) = shown (.publish resource other) :=
    congrArg (Call.publish resource) halike
  refine (ask_twins (.publish resource details) hunseen).bind fun answer reply hsame => ?_
  obtain rfl : (answer : Except Fault Unit) = reply := hsame
  exact .ofExcept (.same (fun _ => rfl) _)

theorem publishAny_twins {details other : ConnectionDetails}
    (halike : Issuance.redacted details = Issuance.redacted other) :
    Work.Twins likeness Eq (publishAny details : Step Issuance.interface Unit)
      (publishAny other) := by
  have hempty : details.isEmpty = other.isEmpty := by
    rw [← Issuance.isEmpty_redacted, halike, Issuance.isEmpty_redacted]
  unfold publishAny
  rw [hempty]
  split
  · exact .pure rfl
  · exact publish_twins halike

theorem setCondition_twins {I : Interface} {outer : Likeness I}
    (condition : Time.Instant → Condition) :
    Work.Twins outer Eq (setCondition condition) (setCondition condition) :=
  Work.Twins.bind_eq .now fun _ => .modify _

theorem recordFrom_twins (changes : Dictionary (Option String)) (number more : Nat) :
    Work.Twins likeness Eq (recordFrom changes number more : Step Issuance.interface Unit)
      (recordFrom changes number more) := by
  induction more generalizing number with
  | zero => exact updateAnnotations_twins changes
  | succ more ih =>
      refine (updateAnnotations_twins changes).attempt.bind fun result other halike => ?_
      cases halike with
      | ok hsame => exact .pure rfl
      | error fault =>
          refine Work.Twins.bind_eq ?_ fun _ => ih (number + 1)
          exact (ask_twins (.pause _) rfl).bind fun _ _ _ => .pure rfl

theorem finish_twins (reason : String) (after : Time.Span) :
    Work.Twins likeness Eq (finish reason after : Step Issuance.interface Action)
      (finish reason after) := by
  refine Work.Twins.bind_eq (setCondition_twins _) fun _ => ?_
  refine Work.Twins.bind_eq updateStatus_twins fun _ => ?_
  exact Work.Twins.bind_eq (.count _) fun _ => .pure rfl

theorem create_twins (options : PassOptions) :
    Work.Twins likeness Eq (create Issuance.client options) (create Issuance.client options) := by
  refine Work.Twins.bind_eq .now fun pending => ?_
  refine Work.Twins.bind_eq (updateAnnotations_twins _) fun _ => ?_
  refine Work.Twins.bind_eq (.modify _) fun _ => ?_
  refine Work.Twins.bind_eq (setCondition_twins _) fun _ => ?_
  refine (ofRemote_twins Issuance.create_twins).attempt.bind fun result other halike => ?_
  cases halike with
  | error fault =>
      refine Work.Twins.bind_eq .now fun failed => ?_
      refine Work.Twins.bind_eq (.modify _) fun _ => ?_
      exact (recordFrom_twins _ 1 _).attempt.bind fun _ _ _ => .fail fault
  | ok hpublished =>
      refine Work.Twins.bind_eq (.count _) fun _ => ?_
      refine Work.Twins.bind_eq .now fun succeeded => ?_
      refine Work.Twins.bind_eq (.modify _) fun _ => ?_
      refine Work.Twins.bind_eq .held fun resource => ?_
      refine Work.Twins.bind_eq (recordFrom_twins _ 1 _) fun _ => ?_
      exact Work.Twins.bind_eq (publishAny_twins hpublished) fun _ => finish_twins _ _

theorem release_twins :
    Work.Twins likeness Eq (release : Step Issuance.interface Action) release := by
  refine Work.Twins.bind_eq .held fun resource => ?_
  cases resource.hasFinalizer with
  | true =>
      refine Work.Twins.bind_eq (updateFinalizers_twins _) fun _ => ?_
      exact Work.Twins.bind_eq (.modify _) fun _ => .pure rfl
  | false => exact .pure rfl

theorem hold_twins : Work.Twins likeness Eq (hold : Step Issuance.interface Unit) hold := by
  refine Work.Twins.bind_eq .held fun resource => ?_
  cases resource.hasFinalizer with
  | true => exact .pure rfl
  | false => exact Work.Twins.bind_eq (updateFinalizers_twins _) fun _ => .modify _

theorem delete_twins (options : PassOptions) :
    Work.Twins likeness Eq (delete Issuance.client options) (delete Issuance.client options) := by
  refine Work.Twins.bind_eq (setCondition_twins _) fun _ => ?_
  refine Work.Twins.bind_eq (ofRemote_twins Issuance.delete_twins) fun _ => ?_
  exact Work.Twins.bind_eq (.count _) fun _ => finish_twins _ _

theorem maintain_twins (options : PassOptions) (observation : Observation) :
    Work.Twins likeness Eq (maintain Issuance.client options observation)
      (maintain Issuance.client options observation) := by
  refine Work.Twins.bind_eq (publishAny_twins rfl) fun _ => ?_
  cases observation.upToDate with
  | true => exact finish_twins _ _
  | false =>
      have update : Work.Twins Issuance.likeness Eq Issuance.client.update
          Issuance.client.update := .pure rfl
      refine Work.Twins.bind_eq (ofRemote_twins update) fun details => ?_
      exact Work.Twins.bind_eq (publishAny_twins rfl) fun _ => finish_twins _ _

theorem drive_twins (options : PassOptions) :
    Work.Twins likeness Eq (drive Issuance.client options) (drive Issuance.client options) := by
  refine Work.Twins.bind_eq (ofRemote_twins Issuance.observe_twins) fun observation => ?_
  refine Work.Twins.bind_eq .held fun resource => ?_
  cases resource.isDeleting with
  | true =>
      cases observation.resourceExists with
      | true => exact delete_twins options
      | false => exact release_twins
  | false =>
      refine Work.Twins.bind_eq hold_twins fun _ => ?_
      cases observation.resourceExists with
      | true => exact maintain_twins options observation
      | false => exact create_twins options

theorem connected_twins (options : PassOptions) :
    Work.Twins likeness Eq (connected Issuance.connector options)
      (connected Issuance.connector options) := by
  refine (ofRemote_twins Issuance.connect_twins).bind fun found other hknown => ?_
  obtain ⟨rfl, rfl⟩ := hknown
  have disconnect : Work.Twins Issuance.likeness Eq Issuance.client.disconnect
      Issuance.client.disconnect := .pure rfl
  refine (drive_twins options).attempt.bind fun outcome other halike => ?_
  exact (ofRemote_twins disconnect).attempt.bind fun _ _ _ => .ofExcept halike

theorem run_twins (options : PassOptions) :
    Work.Twins likeness Eq (run Issuance.connector options) (run Issuance.connector options) := by
  refine Work.Twins.bind_eq .held fun resource => ?_
  cases resource.name.isEmpty with
  | true => exact .fail _
  | false =>
      cases resource.isDeleting with
      | true =>
          cases resource.spec.deletionPolicy with
          | orphan => exact Work.Twins.bind_eq (setCondition_twins _) fun _ => release_twins
          | delete => exact connected_twins options
      | false =>
          cases resource.createIncomplete with
          | true => exact .fail _
          | false => exact connected_twins options

end Pass

/-! Rounds -/

namespace Round

theorem upTo_twins {ends : α → β → Prop} (deadline : Time.Instant) (late : Fault)
    {script : Script (Pass.interface Issuance.interface) σ (Except Fault α)}
    {other : Script (Pass.interface Issuance.interface) σ (Except Fault β)}
    (htwins : script.Twins Pass.likeness (Results ends) other) :
    (upTo deadline late script).Twins likeness (Results ends) (upTo deadline late other) := by
  induction htwins with
  | done halike => exact .done halike
  | @ask held call other resume continued hsame _ ih =>
      rw [upTo, upTo]
      refine .ask (congrArg (Call.within deadline) hsame) fun answer reply htold => ?_
      cases (htold : Option.Rel (Pass.alike call other) answer reply) with
      | some htold => exact ih _ _ htold
      | none => exact .done (.error late)
  | clock _ ih => exact .clock ih
  | count _ ih => exact .count ih

theorem conclude_twins (resource : Credentials) (result : Except Fault Action) :
    (conclude resource result).Twins likeness Eq (conclude resource result) := by
  cases result with
  | ok action => exact .done rfl
  | error fault =>
      unfold conclude
      refine .count ?_
      split
      · exact .done rfl
      · exact .clock fun now => .ask rfl fun _ _ _ => .done rfl

theorem run_twins (options : PassOptions) (resource : Credentials) :
    (run Issuance.connector options resource).Twins likeness Eq
      (run Issuance.connector options resource) := by
  refine .count (.ask rfl fun (delay other : Time.Span) (hsame : delay = other) => ?_)
  subst hsame
  split
  · refine .clock fun start => ?_
    refine (upTo_twins _ _ (Pass.run_twins options resource)).bind
        fun held result other halike => ?_
    obtain rfl := halike.eq
    exact .clock fun stop => .count (conclude_twins held result)
  · exact .count (.count (.done rfl))

end Round

/-! The service -/

namespace Service

theorem counted_twins {I : Interface} {outer : Likeness I} {ends : α → β → Prop}
    {script : Script I σ α} {other : Script I σ β} (events : List Event)
    (htwins : script.Twins outer ends other) :
    (counted events script).Twins outer ends (counted events other) := by
  induction events with
  | nil => exact htwins
  | cons event events ih => exact .count ih

theorem run_twins (options : PassOptions) (rounds : Nat) (retries : Retries)
    (resource : Credentials) :
    (run Issuance.connector options rounds retries resource).Twins likeness Eq
      (run Issuance.connector options rounds retries resource) := by
  induction rounds generalizing retries resource with
  | zero => exact .done rfl
  | succ rounds ih =>
      have hcarried : ((Round.run Issuance.connector options resource).through
          (J := interface Issuance.interface) Call.round fun _ answer => answer).Twins likeness Eq
            ((Round.run Issuance.connector options resource).through Call.round
              fun _ answer => answer) :=
        (Round.run_twins options resource).through
          (fun _ _ hsame => congrArg Call.round hsame) fun _ _ _ _ => id
      refine hcarried.bind fun held outcome other hsame => ?_
      subst hsame
      refine counted_twins _ (.ask rfl fun (due other : Credentials) (hsame : due = other) => ?_)
      subst hsame
      exact ih _ due

end Service

end BucketKeys
