import BucketKeys.Proofs.Script.Laws
import BucketKeys.Proofs.Script.Muffled
import BucketKeys.Round

/-!
A listener at the client of a pass. It is told when a creation or a deletion went well and when the
client is about to disconnect. Nobody else hears of it, and the pass is the same with and without
it.
-/

namespace BucketKeys.Pass

variable {R : Interface}

inductive Remark where
  | created
  | deleted
  | leaving
  deriving DecidableEq, Repr

/-- The questions of a client, and remarks to the listener. -/
def Overheard (R : Interface) : Interface where
  Call := R.Call ⊕ Remark
  Answer
    | .inl call => R.Answer call
    | .inr _ => Unit

def relay (work : Work R σ α) : Work (Overheard R) σ α :=
  work.through (J := Overheard R) Sum.inl fun _ answer => answer

def remark (remark : Remark) : Work (Overheard R) σ Unit :=
  Work.ask (I := Overheard R) (.inr remark)

def Client.overheard (client : Client R) : Client (Overheard R) where
  observe := relay client.observe
  create := do
    let details ← relay client.create
    remark .created
    return details
  update := relay client.update
  delete := do
    relay client.delete
    remark .deleted
  disconnect := do
    remark .leaving
    relay client.disconnect

def Connector.overheard (connector : Connector R) : Connector (Overheard R) where
  connect := do
    let client ← relay connector.connect
    return client.overheard

def muffler : Muffler (interface (Overheard R)) (interface R)
  | .remote (.inl call) => .inr (.same (J := interface R) (.remote call))
  | .remote (.inr _) => .inl ()
  | .updateAnnotations resource changes =>
    .inr (.same (J := interface R) (.updateAnnotations resource changes))
  | .updateFinalizers resource finalizers =>
    .inr (.same (J := interface R) (.updateFinalizers resource finalizers))
  | .updateStatus resource => .inr (.same (J := interface R) (.updateStatus resource))
  | .publish resource details => .inr (.same (J := interface R) (.publish resource details))
  | .pause span => .inr (.same (J := interface R) (.pause span))

@[simp] theorem muffled_relay (work : Work R Credentials α) :
    (ofRemote (relay work)).muffled muffler = ofRemote work := by
  funext held
  change (((work held).through _ _).through _ _).muffled muffler = (work held).through _ _
  induction work held with
  | done held result => rfl
  | ask held call resume ih =>
      exact congrArg (Script.ask held _) (funext fun answer => ih answer)
  | clock resume ih => exact congrArg Script.clock (funext ih)
  | count event next ih => exact congrArg (Script.count event) ih

theorem ofRemote_bind (work : Work R Credentials α) (next : α → Work R Credentials β) :
    ofRemote (work >>= next) = ofRemote work >>= fun value => ofRemote (next value) :=
  Work.through_bind work next

@[simp] theorem ofRemote_pure (value : α) :
    (ofRemote (pure value : Work R Credentials α)) = pure value := rfl

@[simp] theorem muffled_remark (said : Remark) :
    (ofRemote (remark said) : Step (Overheard R) Unit).muffled muffler = pure () := rfl

section

variable (client : Client R) (connector : Connector R) (options : PassOptions)

@[simp] theorem muffled_observe :
    (ofRemote client.overheard.observe).muffled muffler = ofRemote client.observe :=
  muffled_relay client.observe

@[simp] theorem muffled_remote_create :
    (ofRemote client.overheard.create).muffled muffler = ofRemote client.create := by
  simp [Client.overheard, ofRemote_bind, -bind_pure_comp]

@[simp] theorem muffled_update :
    (ofRemote client.overheard.update).muffled muffler = ofRemote client.update :=
  muffled_relay client.update

@[simp] theorem muffled_remote_delete :
    (ofRemote client.overheard.delete).muffled muffler = ofRemote client.delete := by
  rw [Client.overheard, ofRemote_bind, Work.muffled_bind, muffled_relay]
  exact bind_pure (ofRemote client.delete)

@[simp] theorem muffled_disconnect :
    (ofRemote client.overheard.disconnect).muffled muffler = ofRemote client.disconnect := by
  simp [Client.overheard, ofRemote_bind, -bind_pure_comp]

@[simp] theorem muffled_updateAnnotations (changes : Dictionary (Option String)) :
    (updateAnnotations changes : Step (Overheard R) Unit).muffled muffler =
      updateAnnotations changes := by
  funext held
  exact congrArg (Script.ask held _) (funext fun answer => by cases answer <;> rfl)

@[simp] theorem muffled_updateFinalizers (finalizers : List String) :
    (updateFinalizers finalizers : Step (Overheard R) Unit).muffled muffler =
      updateFinalizers finalizers := by
  funext held
  exact congrArg (Script.ask held _) (funext fun answer => by cases answer <;> rfl)

@[simp] theorem muffled_updateStatus :
    (updateStatus : Step (Overheard R) Unit).muffled muffler = updateStatus := by
  funext held
  exact congrArg (Script.ask held _) (funext fun answer => by cases answer <;> rfl)

@[simp] theorem muffled_publish (details : ConnectionDetails) :
    (publish details : Step (Overheard R) Unit).muffled muffler = publish details := by
  funext held
  exact congrArg (Script.ask held _) (funext fun answer => by cases answer <;> rfl)

@[simp] theorem muffled_pause (span : Time.Span) :
    (pause span : Step (Overheard R) Unit).muffled muffler = pause span := rfl

@[simp] theorem muffled_setCondition (condition : Time.Instant → Condition) :
    (setCondition condition : Step (Overheard R) Unit).muffled muffler = setCondition condition :=
  rfl

@[simp] theorem muffled_recordFrom (changes : Dictionary (Option String)) (number more : Nat) :
    (recordFrom changes number more : Step (Overheard R) Unit).muffled muffler =
      recordFrom changes number more := by
  induction more generalizing number with
  | zero => exact muffled_updateAnnotations changes
  | succ more ih =>
      simp only [recordFrom, Work.muffled_bind, Work.muffled_attempt, muffled_updateAnnotations]
      refine congrArg _ (funext fun result => ?_)
      cases result with
      | ok written => rfl
      | error fault => simp only [Work.muffled_bind, muffled_pause, ih]

@[simp] theorem muffled_record (attempts : Nat) (changes : Dictionary (Option String)) :
    (record attempts changes : Step (Overheard R) Unit).muffled muffler = record attempts changes :=
  muffled_recordFrom changes 1 _

@[simp] theorem muffled_publishAny (details : ConnectionDetails) :
    (publishAny details : Step (Overheard R) Unit).muffled muffler = publishAny details := by
  unfold publishAny
  split
  · rfl
  · exact muffled_publish details

@[simp] theorem muffled_finish (reason : String) (after : Time.Span) :
    (finish reason after : Step (Overheard R) Action).muffled muffler = finish reason after := by
  simp [finish, -bind_pure_comp]

theorem muffled_create :
    (create client.overheard options).muffled muffler = create client options := by
  refine Work.muffled_then rfl fun pending =>
    Work.muffled_then (muffled_updateAnnotations _) fun _ => Work.muffled_then rfl fun _ =>
      Work.muffled_then rfl fun _ => Work.muffled_then (by simp) fun created => ?_
  cases created with
  | error fault => simp
  | ok details => simp

theorem muffled_release :
    (release : Step (Overheard R) Action).muffled muffler = release := by
  refine Work.muffled_then rfl fun resource => ?_
  cases resource.hasFinalizer with
  | true => exact Work.muffled_then (muffled_updateFinalizers _) fun _ => rfl
  | false => rfl

theorem muffled_delete :
    (delete client.overheard options).muffled muffler = delete client options := by
  simp [delete]

theorem muffled_hold : (hold : Step (Overheard R) Unit).muffled muffler = hold := by
  refine Work.muffled_then rfl fun resource => ?_
  cases resource.hasFinalizer with
  | true => rfl
  | false => exact Work.muffled_then (muffled_updateFinalizers _) fun _ => rfl

theorem muffled_maintain (observation : Observation) :
    (maintain client.overheard options observation).muffled muffler =
      maintain client options observation := by
  refine Work.muffled_then (muffled_publishAny _) fun _ => ?_
  cases observation.upToDate with
  | true => exact muffled_finish _ _
  | false => simp

theorem muffled_drive :
    (drive client.overheard options).muffled muffler = drive client options := by
  refine Work.muffled_then (muffled_observe client) fun observation =>
    Work.muffled_then rfl fun resource => ?_
  cases resource.isDeleting with
  | true =>
      cases observation.resourceExists with
      | true => exact muffled_delete client options
      | false => exact muffled_release
  | false =>
      refine Work.muffled_then muffled_hold fun _ => ?_
      cases observation.resourceExists with
      | true => exact muffled_maintain client options observation
      | false => exact muffled_create client options

theorem connected_overheard :
    connected connector.overheard options =
      (do
        let client ← ofRemote (relay connector.connect)
        let outcome ← (drive client.overheard options).attempt
        let _ ← (ofRemote client.overheard.disconnect).attempt
        Work.ofExcept outcome) := by
  have hconnects : ofRemote connector.overheard.connect =
      ofRemote (relay connector.connect) >>= fun client => pure client.overheard :=
    ofRemote_bind _ _
  rw [connected, hconnects, bind_assoc]
  rfl

theorem muffled_connected :
    (connected connector.overheard options).muffled muffler = connected connector options := by
  rw [connected_overheard]
  refine Work.muffled_then (muffled_relay _) fun client => ?_
  refine Work.muffled_then ?_ fun outcome => ?_
  · rw [Work.muffled_attempt, muffled_drive]
  · refine Work.muffled_then ?_ fun _ => Work.muffled_ofExcept outcome
    rw [Work.muffled_attempt, muffled_disconnect]

/-- The listener does not change a pass. -/
theorem muffled_run :
    (run connector.overheard options).muffled muffler = run connector options := by
  refine Work.muffled_then rfl fun resource => ?_
  split
  · rfl
  · split
    · exact Work.muffled_then rfl fun _ => muffled_release
    · split
      · rfl
      · exact muffled_connected connector options

end

end BucketKeys.Pass
