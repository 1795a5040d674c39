import BucketKeys.Proofs.Issuance.Rehearsal
import BucketKeys.Proofs.Issuance.Tally
import BucketKeys.Proofs.Course.Basic
import BucketKeys.Proofs.Resource.Conditions
import BucketKeys.Proofs.Round.Deadline
import BucketKeys.Proofs.Script.Laws

/-!
The way of a pass into its work: its checks, the connection and the observation. A pass that fails
on this way has changed nothing, and says so in the status.
-/

namespace BucketKeys

namespace Pass

variable {R : Interface}

/-- All of a pass that comes before it acts. A resource that is to be orphaned is not looked at. -/
def enter (connector : Connector R) : Step R (Option (Client R × Observation)) := do
  let resource ← Work.held
  if resource.name.isEmpty then
    Work.fail (.notAManagedResource Kind.credentials.name "object has no name")
  else if resource.isDeleting && resource.spec.deletionPolicy == .orphan then return none
  else if !resource.isDeleting && resource.createIncomplete then Work.fail .incompleteCreation
  else
    let client ← ofRemote connector.connect
    let observation ← ofRemote client.observe
    return some (client, observation)

/-- What a pass does about what it has found. -/
def act (options : PassOptions) : Option (Client R × Observation) → Step R Action
  | none => do
    setCondition Condition.deleting
    release
  | some (client, observation) => do
    let resource ← Work.held
    if resource.isDeleting then
      if observation.resourceExists then delete client options else release
    else
      hold
      if observation.resourceExists then maintain client options observation
      else create client options

theorem drive_eq (client : Client R) (options : PassOptions) :
    drive client options =
      ofRemote client.observe >>= fun observation => act options (some (client, observation)) := rfl

theorem connected_eq {connector : Connector R} {client : Client R}
    {introduce : Work R Credentials Unit}
    (hconnects : connector.connect = introduce >>= fun _ => pure client)
    (hdisconnects : client.disconnect = pure ()) (options : PassOptions) :
    connected connector options =
      ofRemote connector.connect >>= fun client => drive client options := by
  have hintroduced : (ofRemote connector.connect : Step R (Client R)) =
      ofRemote introduce >>= fun _ => pure client := by
    rw [hconnects]
    exact Work.through_bind introduce _
  have hundisturbed : (do
      let outcome ← (drive client options).attempt
      let _ ← (ofRemote client.disconnect).attempt
      Work.ofExcept outcome : Step R Action) = drive client options := by
    rw [hdisconnects]
    exact Work.attempt_ofExcept _
  rw [connected, hintroduced, bind_assoc, bind_assoc]
  simp only [pure_bind, hundisturbed]

theorem run_eq {connector : Connector R}
    (hconnects : ∀ options, connected connector options =
      ofRemote connector.connect >>= fun client => drive client options)
    (options : PassOptions) : run connector options = enter connector >>= act options := by
  rw [run, enter, bind_assoc]
  refine congrArg (Work.held >>= ·) (funext fun resource => ?_)
  cases resource.name.isEmpty with
  | true => rfl
  | false =>
      cases resource.isDeleting && resource.spec.deletionPolicy == .orphan with
      | true => rfl
      | false =>
          cases !resource.isDeleting && resource.createIncomplete with
          | true => rfl
          | false =>
              change connected connector options = (do
                let client ← ofRemote connector.connect
                let observation ← ofRemote client.observe
                return some (client, observation)) >>= act options
              simp only [hconnects, drive_eq, bind_assoc, pure_bind]

end Pass

namespace Issuance

open TokenApi

variable {resource held : Credentials} {options : PassOptions}

def introduce : Step Unit := do
  let resource ← Work.held
  let apiToken ← authenticated do
    let login ← Authentication.resolve resource
    Work.ofExcept login.token
  let _ ← ask (.authenticate apiToken)
  return ()

theorem connect_eq : connect = introduce >>= fun _ => pure client := by
  simp only [connect, introduce, bind_assoc, pure_bind]

theorem run_eq (options : PassOptions) :
    Pass.run connector options = Pass.enter connector >>= Pass.act options :=
  Pass.run_eq (Pass.connected_eq connect_eq rfl) options

/-! On the way in nothing is changed -/

/-- Questions that leave the tokens as they are. -/
def Call.isLook : Call → Bool
  | .authentication _ => true
  | .authenticate _ => true
  | .getToken _ => true
  | .listPermissionGroups => false
  | .createToken _ => false
  | .deleteToken _ => false

def Looks (resource copy : Credentials) (call : Call) : Prop :=
  copy = resource ∧ call.isLook = true

theorem extract_asks (credentials : ProviderCredentials) :
    (Authentication.extract credentials held).Asks
      (fun copy call => Looks held copy (.authentication call)) fun copy _ => copy = held := by
  rw [Authentication.extract_eq]
  cases Authentication.choice credentials with
  | error fault => rfl
  | ok source => exact Work.asks_ask_then ⟨rfl, rfl⟩ fun _ => Work.asks_ofExcept.mpr rfl

theorem resolve_asks (consumer : Credentials) :
    (Authentication.resolve consumer held).Asks
      (fun copy call => Looks held copy (.authentication call)) fun copy _ => copy = held := by
  unfold Authentication.resolve
  cases consumer.spec.providerConfigRef.filter (!·.name.isEmpty) with
  | none => rfl
  | some reference =>
      refine Work.asks_ask_then ⟨rfl, rfl⟩ fun config => ?_
      cases (config : Except Fault ProviderConfigSpec) with
      | error fault => rfl
      | ok config =>
          refine Work.asks_ask_then ⟨rfl, rfl⟩ fun tracked => ?_
          cases (tracked : Except Fault Unit) with
          | error fault => rfl
          | ok tracked =>
              refine Work.asks_andThen (extract_asks config.credentials) ?_ fun _ _ => id
              rintro copy data rfl
              exact Work.asks_ofExcept.mpr rfl

def Unspoilt (resource copy : Credentials) (result : Except Fault α) : Prop :=
  ∀ fault, result = .error fault → copy = resource ∧ fault.isFatal = false

theorem unspoilt_ok (copy : Credentials) (value : α) :
    Unspoilt resource copy (.ok value : Except Fault α) := by
  rintro fault ⟨⟩

theorem unspoilt_error {fault : Fault} (hmendable : fault.isFatal = false) :
    Unspoilt resource resource (.error fault : Except Fault α) := by
  rintro _ ⟨⟩
  exact ⟨rfl, hmendable⟩

theorem authenticated_asks {work : Work Authentication.interface Credentials α}
    (hasks : (work resource).Asks (fun copy call => Looks resource copy (.authentication call))
      fun copy _ => copy = resource) :
    (authenticated work resource).Asks (Looks resource)
      fun copy result => copy = resource ∧ Mendable result := by
  have hcarried : ((work.through Call.authentication fun _ answer => answer : Step α) resource).Asks
      (Looks resource) fun copy _ => copy = resource := Script.asks_through hasks
  refine Script.asks_bind.mpr (Script.asks_bind.mpr (hcarried.imp ?_))
  rintro copy result rfl
  cases result with
  | ok value => exact ⟨rfl, trivial⟩
  | error fault => exact ⟨rfl, fault.isFatal_unauthenticated⟩

theorem connect_asks :
    (connect resource).Asks (Looks resource) fun copy result => copy = resource ∧
      Mendable result ∧ ∀ found, result = .ok found → found = client := by
  have login : ((Authentication.resolve resource >>= fun login => Work.ofExcept login.token)
      resource).Asks (fun copy call => Looks resource copy (.authentication call))
        fun copy _ => copy = resource := by
    refine Work.asks_andThen (resolve_asks resource) ?_ fun _ _ => id
    rintro copy login rfl
    exact Work.asks_ofExcept.mpr rfl
  refine Work.asks_held_then (Work.asks_andThen (authenticated_asks login) ?_ ?_)
  · rintro copy apiToken ⟨rfl, -⟩
    refine Work.asks_ask_then ⟨rfl, rfl⟩ fun _ => ⟨rfl, trivial, ?_⟩
    rintro found ⟨⟩
    rfl
  · rintro copy fault ⟨rfl, hmendable⟩
    exact ⟨rfl, hmendable, by rintro found ⟨⟩⟩

theorem observe_asks : (observe resource).Asks (Looks resource) (Unspoilt resource) := by
  apply Work.asks_held_then
  cases resource.externalName? with
  | none => exact unspoilt_ok _ _
  | some id =>
      refine Work.asks_ask_then ⟨rfl, rfl⟩ fun answer => ?_
      cases (answer : Except Failure Token) with
      | error failure =>
          dsimp only
          cases failure.isNotFound with
          | true => exact unspoilt_ok _ _
          | false => exact unspoilt_error rfl
      | ok token => exact fun now => unspoilt_ok _ _

def Glances (resource copy : Credentials) : Pass.Call interface → Prop
  | .remote call => Looks resource copy call
  | _ => False

theorem enter_asks (hnamed : resource.name ≠ "") :
    (Pass.enter connector resource).Asks (Glances resource) (Unspoilt resource) := by
  apply Work.asks_held_then
  rw [if_neg (by simpa using hnamed)]
  split
  · exact unspoilt_ok _ _
  · split
    · exact unspoilt_error rfl
    · refine Work.asks_andThen (Script.asks_through connect_asks) ?_ ?_
      · rintro copy found ⟨rfl, -, hknown⟩
        obtain rfl := hknown found rfl
        refine Work.asks_andThen (Script.asks_through observe_asks) ?_ ?_
        · exact fun _ _ _ => unspoilt_ok _ _
        · rintro copy fault hunspoilt _ ⟨⟩
          exact hunspoilt fault rfl
      · rintro copy fault ⟨rfl, hmendable, -⟩
        exact unspoilt_error hmendable

/-! A round that fails on its way in -/

/-- Questions of a round that leave the tokens, the metadata of the resource and its secret as they
are. -/
def IsIdle : Round.Call interface → Prop
  | .admission => True
  | .within _ (.remote call) => call.isLook = true
  | .within _ _ => False
  | .recordFailure _ => True

variable {state : State} {held copy : Credentials} {start stop : Time.Instant}
  {pass conclusion : List (Moment (Round.interface interface))} {fault : Fault}
  {outcome : Round.Outcome}

theorem entered_unspoilt {deadline : Time.Instant} {late : Fault} (hmendable : late.isFatal = false)
    (hnamed : resource.name ≠ "")
    (haborted : (Round.upTo deadline late (Pass.enter connector resource)).Reaches pass
      (some (.done copy (.error fault)))) :
    copy = resource ∧ fault.isFatal = false ∧
      ∀ moment ∈ pass, ∀ call, moment.call? = some call →
        ∃ inquiry, call = .within deadline (.remote inquiry) ∧ inquiry.isLook = true := by
  obtain ⟨hasked, hended⟩ := (Round.asks_upTo (enter_asks hnamed)).reaches haborted
  have hkept : copy = resource ∧ fault.isFatal = false := by
    rcases hended _ rfl with hunspoilt | ⟨hsame, inner, hglance⟩
    · exact hunspoilt fault rfl
    · cases hsame
      cases inner with
      | remote inquiry => exact ⟨hglance.1, hmendable⟩
      | _ => cases hglance
  refine ⟨hkept.1, hkept.2, fun moment hmember call hput => ?_⟩
  obtain ⟨_, inner, rfl, hglance⟩ := hasked moment hmember call hput
  cases inner with
  | remote inquiry => exact ⟨inquiry, rfl, hglance.2⟩
  | _ => cases hglance

theorem passed_of_entered {deadline : Time.Instant} {late : Fault} (options : PassOptions)
    (haborted : (Round.upTo deadline late (Pass.enter connector resource)).Reaches pass
      (some (.done copy (.error fault)))) :
    (Round.upTo deadline late (Pass.run connector options resource)).Reaches pass
      (some (.done copy (.error fault))) := by
  rw [run_eq, Round.upTo_andThen]
  exact haborted.bind _

theorem stored_of_idle {deadline : Time.Instant} (state : State)
    (hidle : ∀ moment ∈ pass, ∀ call, moment.call? = some call →
      ∃ inquiry, call = .within deadline (.remote inquiry) ∧ inquiry.isLook = true) :
    (pass.foldr State.advance state).stored = state.stored := by
  induction pass with
  | nil => rfl
  | cons moment before ih =>
      obtain ⟨hlast, hearlier⟩ := List.forall_mem_cons.mp hidle
      rw [List.foldr_cons, ← ih hearlier]
      generalize before.foldr State.advance state = state
      cases moment with
      | asked call answer =>
          obtain ⟨inquiry, rfl, hlook⟩ := hlast call rfl
          cases (answer : Option (Pass.Answer (.remote inquiry))) <;> rfl
      | lost call =>
          obtain ⟨inquiry, rfl, hlook⟩ := hlast call rfl
          rfl
      | read now => rfl
      | counted event => rfl

/-- A round whose pass fails before it acts, be it by the deadline, asks for nothing that changes
anything and writes nothing but the status that names the failure. -/
theorem failed_entry_abstains (options : PassOptions) (named : state.stored.name ≠ "")
    (reached : (Round.run connector options state.stored).Reaches
      (conclusion ++ Round.clocked start stop pass) (some (.done held outcome)))
    (aborted : (Round.upTo (start.later options.timeout) (.timeout options.timeout)
      (Pass.enter connector state.stored)).Reaches pass (some (.done copy (.error fault)))) :
    outcome = .failed fault ∧
      (∀ moment ∈ conclusion ++ Round.clocked start stop pass, ∀ call,
        moment.call? = some call → IsIdle call) ∧
      ∃ now answer,
        let condition := Condition.reconcileError fault.message now
        let failed := state.stored.setCondition condition
        let after := (conclusion ++ Round.clocked start stop pass).foldr State.advance state.begin
        conclusion = [.asked (Round.Call.recordFailure failed) answer, .read now,
          .counted (.passFailed fault.label)] ∧
        after.stored =
          (match (answer : Except Fault Unit) with
            | .ok () => failed
            | .error _ => state.stored) ∧
        failed.metadata = state.stored.metadata ∧ failed.spec = state.stored.spec ∧
        failed.observed = state.stored.observed ∧
        failed.says? Condition.synced = some ("False", some "ReconcileError", some fault.message) ∧
        condition.Placed state.stored.conditions failed.conditions := by
  obtain ⟨rfl, hmendable, hidle⟩ := entered_unspoilt rfl named aborted
  have hpassed : (Round.upTo (start.later options.timeout) (.timeout options.timeout)
      (Pass.run connector options state.stored)).Reaches pass
        (some (.done state.stored (.error fault))) := passed_of_entered options aborted
  have haround : ∀ moment ∈ Round.clocked start stop pass, ∀ call, moment.call? = some call →
      IsIdle call := by
    intro moment hmember call hput
    simp only [Round.clocked, Round.opening, List.mem_cons, List.mem_append, List.not_mem_nil,
      or_false] at hmember
    rcases hmember with rfl | rfl | hmember | rfl | rfl | rfl
    · cases hput
    · cases hput
    · obtain ⟨inquiry, rfl, hlook⟩ := hidle moment hmember call hput
      exact hlook
    · cases hput
    · cases hput
      trivial
    · cases hput
  have hstill : ((Round.clocked start stop pass).foldr State.advance state.begin).stored =
      state.stored := by
    rw [Round.clocked, List.foldr_cons, List.foldr_cons, List.foldr_append]
    exact stored_of_idle _ hidle
  cases Round.concluded_of_reaches hpassed reached with
  | fatal fatal => simp [hmendable] at fatal
  | recorded _ now answer =>
      refine ⟨rfl, ?_, now, answer, rfl, ?_, rfl, rfl, Credentials.observed_setCondition _ _,
        Credentials.says?_entered .., ?_⟩
      · intro moment hmember
        rcases List.mem_append.mp hmember with hlast | hmember
        · simp only [List.mem_cons, List.not_mem_nil, or_false] at hlast
          rcases hlast with rfl | rfl | rfl
          · rintro call ⟨⟩
            trivial
          · rintro call ⟨⟩
          · rintro call ⟨⟩
        · exact haround moment hmember
      · rw [List.foldr_append]
        generalize (Round.clocked start stop pass).foldr State.advance state.begin =
            hpassed at hstill
        cases answer with
        | ok done =>
            let failed := state.stored.setCondition (Condition.reconcileError fault.message now)
            let report (stored : Credentials) : Credentials :=
              { stored with status := failed.status }
            exact congrArg report hstill
        | error fault => exact hstill
      · rw [Credentials.conditions_setCondition]
        exact Condition.placed_set _ _

/-! A round that cannot see its token -/

def settled : Credentials :=
  (applicant.setExternalName "token").setCondition ⟨"Ready", "True", none, none, none⟩

def outage : Failure := ⟨.transient, "HTTP status 503"⟩

def unseeing : (call : Pass.Call interface) → Pass.Answer call
  | .remote (.getToken _) => Except.error outage
  | call => obliging none (tokenNamed "token") call

theorem failed_entry_abstains_unseeing : ∃ pass conclusion held copy outcome,
    (Round.run connector habits settled).Reaches
      (conclusion ++ Round.clocked ⟨1717200001, 0⟩ ⟨1717200009, 0⟩ pass)
      (some (.done held outcome)) ∧
    (Round.upTo (Time.Instant.later ⟨1717200001, 0⟩ habits.timeout) (.timeout habits.timeout)
      (Pass.enter connector settled)).Reaches pass
        (some (.done copy (.error (.tokenFetchFailed outage)))) ∧
    outcome = .failed (.tokenFetchFailed outage) ∧
    ∀ moment ∈ conclusion ++ Round.clocked ⟨1717200001, 0⟩ ⟨1717200009, 0⟩ pass, ∀ call,
      moment.call? = some call → IsIdle call := by
  let surroundings := ticking 1717200000 unseeing
  let entry : Script (Round.interface interface) Credentials _ :=
    Round.upTo (Time.Instant.later ⟨1717200001, 0⟩ habits.timeout) (.timeout habits.timeout)
      (Pass.enter connector settled)
  have hentered : entry.Reaches (entry.recite surroundings 1 []) _ :=
    Script.reaches_recite surroundings .here 1
  have hfailure : (match (entry.play surroundings 1).1.2 with
      | .ok _ => none
      | .error fault => some fault) = some (.tokenFetchFailed outage) := by decide +kernel
  generalize entry.play surroundings 1 = played at hentered hfailure
  obtain ⟨⟨copy, result⟩, ticks⟩ := played
  cases result with
  | ok found => cases hfailure
  | error fault =>
      cases hfailure
      have hclocked := Round.reaches_clocked (passed_of_entered habits hentered) ⟨1717200009, 0⟩
      have hrecorded : (Round.conclude copy (.error (.tokenFetchFailed outage)) :
          Script (Round.interface interface) Credentials Round.Outcome).Reaches [_, _, _] _ :=
        ((Script.Reaches.here.step .counted).step (.read ⟨1717200009, 0⟩)).step
          (.asked (Except.ok () : Except Fault Unit))
      have hreached := hclocked.append hrecorded
      have hnamed : (State.initial settled).stored.name ≠ "" := by decide
      have habstains := failed_entry_abstains habits hnamed hreached hentered
      exact ⟨_, _, _, copy, _, hreached, hentered, habstains.1, habstains.2.1⟩

end Issuance

end BucketKeys
