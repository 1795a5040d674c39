import BucketKeys.Proofs.Pass.Overheard
import BucketKeys.Proofs.Script.Asks
import BucketKeys.Proofs.Script.Ledger

/-!
What a pass counts, next to what its listener is told. Creations and deletions are counted as they
are told of; a requeue is counted when the pass comes to one, and that is before it disconnects.
-/

namespace BucketKeys

namespace Event

def isRequeue : Event → Bool
  | requeued _ => true
  | _ => false

def isDuration : Event → Bool
  | passTook _ => true
  | _ => false

def isOfPass : Event → Bool
  | requeued _ => true
  | resourceCreated => true
  | resourceDeleted => true
  | _ => false

end Event

namespace Action

def isRequeue : Action → Bool
  | requeue _ => true
  | awaitChange => false

end Action

namespace Pass

variable {R : Interface}

open Work (Quiet)

/-! Clients and connectors that leave the counting to the pass -/

structure Client.Silent (client : Client R) : Prop where
  observe : Quiet client.observe
  create : Quiet client.create
  update : Quiet client.update
  delete : Quiet client.delete
  disconnect : Quiet client.disconnect

def Connector.Silent (connector : Connector R) : Prop :=
  ∀ held, (connector.connect held).Silent fun _ result =>
    ∀ client, result = .ok client → client.Silent

/-- Disconnecting asks questions only under this condition. -/
def Connector.Leaves (slow : Prop) (connector : Connector R) : Prop :=
  ∀ held, (connector.connect held).Asks (fun _ _ => True) fun _ result =>
    ∀ client, result = .ok client →
      ∀ held, (client.disconnect held).Asks (fun _ _ => slow) fun _ _ => True

/-! What is counted and told -/

structure Notes where
  events : List Event
  remarks : List Remark

def hearing : Ledger (interface (Overheard R)) Notes where
  relies := muffler.Heeds
  enter
    | .counted event, notes => { notes with events := event :: notes.events }
    | .asked (.remote (.inr said)) _, notes => { notes with remarks := said :: notes.remarks }
    | _, notes => notes

/-- What was told of is counted, next to as many requeues as are due. -/
structure Fair (due : Nat) (notes : Notes) : Prop where
  created : notes.events.count .resourceCreated = notes.remarks.count .created
  deleted : notes.events.count .resourceDeleted = notes.remarks.count .deleted
  requeued : notes.events.countP (·.isRequeue) = due
  inner : ∀ event ∈ notes.events, event.isOfPass

def dueOf : Except Fault Action → Nat
  | .ok (.requeue _) => 1
  | _ => 0

variable {notes : Notes} {stops : Notes → Prop}

def Idle (work : Step (Overheard R) α) : Prop :=
  ∀ notes held, (work held).Audits hearing (· = notes) (fun books _ _ => books = notes) notes

theorem audits_within {script : Script (interface (Overheard R)) Credentials α}
    {ends : Notes → Credentials → α → Prop}
    (haudits : script.Audits hearing (· = notes) ends notes) (hstop : stops notes) :
    script.Audits hearing stops ends notes := by
  refine haudits.imp ?_ fun _ _ _ hknown => hknown
  rintro _ rfl
  exact hstop

theorem audits_relay {work : Work R Credentials α} {held : Credentials}
    {ends also : Credentials → Except Fault α → Prop} (hsilent : (work held).Silent ends)
    (hasks : (work held).Asks (fun _ _ => stops notes) also) :
    (ofRemote (relay work) held).Audits hearing stops
      (fun books held result => books = notes ∧ ends held result ∧ also held result) notes := by
  change (((work held).through _ _).through _ _).Audits _ _ _ _
  generalize work held = script at hsilent hasks
  induction script with
  | done held result => exact ⟨rfl, hsilent, hasks⟩
  | ask held call resume ih =>
      exact ⟨fun _ => hasks.1, fun answer _ => ih answer (hsilent answer) (hasks.2 answer)⟩
  | clock resume ih => exact fun now _ => ih now (hsilent now) (hasks now)
  | count event next ih => exact False.elim hsilent

namespace Idle

variable {work : Step (Overheard R) α}

theorem bind {next : α → Step (Overheard R) β} (hidle : Idle work)
    (hfollows : ∀ value, Idle (next value)) : Idle (work >>= next) := by
  intro notes held
  refine Work.audits_andThen (hidle notes held) ?_ fun _ _ _ hsame => hsame
  rintro _ held value rfl
  exact hfollows value _ held

theorem attempt (hidle : Idle work) : Idle work.attempt := fun notes held =>
  Work.audits_attempt.mpr (hidle notes held)

theorem pure (value : α) : Idle (Pure.pure value : Step (Overheard R) α) := fun _ _ => rfl

theorem fail (fault : Fault) : Idle (Work.fail fault : Step (Overheard R) α) := fun _ _ => rfl

theorem held : Idle (Work.held : Step (Overheard R) Credentials) := fun _ _ => rfl

theorem now : Idle (Work.now : Step (Overheard R) Time.Instant) := fun _ _ _ _ => rfl

theorem modify (f : Credentials → Credentials) :
    Idle (Work.modify f : Step (Overheard R) Unit) := fun _ _ => rfl

theorem ofExcept (result : Except Fault α) :
    Idle (Work.ofExcept result : Step (Overheard R) α) := by
  cases result with
  | ok value => exact pure value
  | error fault => exact fail fault

theorem updateAnnotations (changes : Dictionary (Option String)) :
    Idle (Pass.updateAnnotations changes : Step (Overheard R) Unit) :=
  held.bind fun _ => bind (fun _ _ => ⟨fun _ => rfl, fun _ _ => rfl⟩) ofExcept

theorem updateFinalizers (finalizers : List String) :
    Idle (Pass.updateFinalizers finalizers : Step (Overheard R) Unit) :=
  held.bind fun _ => bind (fun _ _ => ⟨fun _ => rfl, fun _ _ => rfl⟩) ofExcept

theorem updateStatus : Idle (Pass.updateStatus : Step (Overheard R) Unit) :=
  held.bind fun _ => bind (fun _ _ => ⟨fun _ => rfl, fun _ _ => rfl⟩) ofExcept

theorem publish (details : ConnectionDetails) :
    Idle (Pass.publish details : Step (Overheard R) Unit) :=
  held.bind fun _ => bind (fun _ _ => ⟨fun _ => rfl, fun _ _ => rfl⟩) ofExcept

theorem pause (span : Time.Span) : Idle (Pass.pause span : Step (Overheard R) Unit) :=
  fun _ _ => ⟨fun _ => rfl, fun _ _ => rfl⟩

theorem setCondition (condition : Time.Instant → Condition) :
    Idle (Pass.setCondition condition : Step (Overheard R) Unit) :=
  now.bind fun _ => modify _

theorem recordFrom (changes : Dictionary (Option String)) (number more : Nat) :
    Idle (Pass.recordFrom changes number more : Step (Overheard R) Unit) := by
  induction more generalizing number with
  | zero => exact updateAnnotations changes
  | succ more ih =>
      refine (updateAnnotations changes).attempt.bind fun result => ?_
      cases result with
      | ok written => exact pure ()
      | error fault => exact (pause _).bind fun _ => ih _

theorem record (attempts : Nat) (changes : Dictionary (Option String)) :
    Idle (Pass.record attempts changes : Step (Overheard R) Unit) :=
  recordFrom changes 1 _

theorem publishAny (details : ConnectionDetails) :
    Idle (Pass.publishAny details : Step (Overheard R) Unit) := by
  unfold Pass.publishAny
  split
  · exact pure ()
  · exact publish details

theorem hold : Idle (Pass.hold : Step (Overheard R) Unit) := by
  refine held.bind fun resource => ?_
  cases resource.hasFinalizer with
  | true => exact pure ()
  | false => exact (updateFinalizers _).bind fun _ => modify _

theorem relay {work : Work R Credentials α} (hquiet : Quiet work) :
    Idle (ofRemote (Pass.relay work)) := by
  intro notes held
  have hrelayed : (ofRemote (Pass.relay work) held).Audits hearing (· = notes)
      (fun books _ _ => books = notes ∧ True ∧ True) notes :=
    audits_relay (hquiet held) ((Script.asks_anything _).mono fun _ _ _ => rfl)
  exact hrelayed.imp (fun _ hsame => hsame) fun _ _ _ hknown => hknown.1

theorem audits_then {next : α → Step (Overheard R) β}
    {ends : Notes → Credentials → Except Fault β → Prop} {held : Credentials} (hidle : Idle work)
    (hstop : stops notes) (hok : ∀ held value, (next value held).Audits hearing stops ends notes)
    (herror : ∀ held fault, ends notes held (.error fault)) :
    Script.Audits hearing stops ends ((work >>= next) held) notes := by
  refine Work.audits_andThen (audits_within (hidle notes held) hstop) ?_ ?_
  · rintro _ held value rfl
    exact hok held value
  · rintro _ held fault rfl
    exact herror held fault

end Idle

/-! What a pass comes to -/

namespace Fair

variable {due : Nat}

theorem requeue (hfair : Fair 0 notes) (reason : String) :
    Fair 1 { notes with events := .requeued reason :: notes.events } where
  created := by simpa using hfair.created
  deleted := by simpa using hfair.deleted
  requeued := by simpa [Event.isRequeue] using hfair.requeued
  inner := List.forall_mem_cons.mpr ⟨rfl, hfair.inner⟩

theorem create (hfair : Fair due notes) :
    Fair due ⟨.resourceCreated :: notes.events, .created :: notes.remarks⟩ where
  created := by simpa using hfair.created
  deleted := by simpa using hfair.deleted
  requeued := by simpa [Event.isRequeue] using hfair.requeued
  inner := List.forall_mem_cons.mpr ⟨rfl, hfair.inner⟩

theorem delete (hfair : Fair due notes) :
    Fair due ⟨.resourceDeleted :: notes.events, .deleted :: notes.remarks⟩ where
  created := by simpa using hfair.created
  deleted := by simpa using hfair.deleted
  requeued := by simpa [Event.isRequeue] using hfair.requeued
  inner := List.forall_mem_cons.mpr ⟨rfl, hfair.inner⟩

theorem leave (hfair : Fair due notes) :
    Fair due { notes with remarks := .leaving :: notes.remarks } where
  created := by simpa using hfair.created
  deleted := by simpa using hfair.deleted
  requeued := hfair.requeued
  inner := hfair.inner

end Fair

/-- The work stops before it comes to a requeue, and counts the one that it comes to. -/
def Accounted (work : Step (Overheard R) Action) : Prop :=
  ∀ notes held, Fair 0 notes → (work held).Audits hearing (Fair 0)
    (fun books _ result => Fair (dueOf result) books) notes

theorem Idle.accounted {work : Step (Overheard R) α} {next : α → Step (Overheard R) Action}
    (hidle : Idle work) (hfollows : ∀ value, Accounted (next value)) : Accounted (work >>= next) :=
  fun _ _ hfair => hidle.audits_then hfair (fun held value => hfollows value _ held hfair)
    fun _ _ => hfair

theorem accounted_fail (fault : Fault) :
    Accounted (Work.fail fault : Step (Overheard R) Action) := fun _ _ => id

theorem accounted_awaitChange : Accounted (pure .awaitChange : Step (Overheard R) Action) :=
  fun _ _ => id

theorem accounted_finish (reason : String) (after : Time.Span) :
    Accounted (finish reason after : Step (Overheard R) Action) :=
  (Idle.setCondition _).accounted fun _ => Idle.updateStatus.accounted fun _ => fun _ _ hfair =>
    hfair.requeue reason

theorem accounted_release : Accounted (release : Step (Overheard R) Action) := by
  refine Idle.held.accounted fun resource => ?_
  cases resource.hasFinalizer with
  | true =>
      exact (Idle.updateFinalizers _).accounted fun _ => (Idle.modify _).accounted fun _ =>
        accounted_awaitChange
  | false => exact accounted_awaitChange

def Notes.hear (said : Remark) (result : Except Fault α) (notes : Notes) : Notes :=
  match result with
  | .ok _ => { notes with remarks := said :: notes.remarks }
  | .error _ => notes

theorem audits_remote_create {client : Client R} (hquiet : Quiet client.create) (notes : Notes)
    (held : Credentials) :
    (ofRemote client.overheard.create held).Audits hearing (· = notes)
      (fun books _ result => books = notes.hear .created result) notes := by
  change Script.Audits _ _ _ (ofRemote (relay client.create >>= _) held) _
  rw [ofRemote_bind]
  refine (Idle.relay hquiet).audits_then rfl (fun held details => ?_) fun _ _ => rfl
  exact ⟨fun hrelied => absurd (hrelied _ _ rfl rfl) (by simp), fun _ _ => rfl⟩

theorem audits_remote_delete {client : Client R} (hquiet : Quiet client.delete) (notes : Notes)
    (held : Credentials) :
    (ofRemote client.overheard.delete held).Audits hearing (· = notes)
      (fun books _ result => books = notes.hear .deleted result) notes := by
  change Script.Audits _ _ _ (ofRemote (relay client.delete >>= _) held) _
  rw [ofRemote_bind]
  refine (Idle.relay hquiet).audits_then rfl (fun held _ => ?_) fun _ _ => rfl
  exact ⟨fun hrelied => absurd (hrelied _ _ rfl rfl) (by simp), fun _ _ => rfl⟩

section

variable {client : Client R} (hsilent : client.Silent) (options : PassOptions)

include hsilent

theorem accounted_create : Accounted (create client.overheard options) := by
  refine Idle.now.accounted fun pending => (Idle.updateAnnotations _).accounted fun _ =>
    (Idle.modify _).accounted fun _ => (Idle.setCondition _).accounted fun _ => ?_
  intro notes held hfair
  have htold := audits_within (audits_remote_create hsilent.create notes held) hfair
  refine (Script.audits_bind _ _ _).mpr (Work.audits_attempt.mpr (htold.imp (fun _ => id) ?_))
  rintro _ held result rfl
  cases result with
  | error fault =>
      exact (Idle.now.accounted fun failed => (Idle.modify _).accounted fun _ =>
        (Idle.record _ _).attempt.accounted fun _ => accounted_fail fault) notes held hfair
  | ok details =>
      change Script.Audits hearing _ _ ((Work.now >>= _) held) _
      exact (Idle.now.accounted fun succeeded => (Idle.modify _).accounted fun _ =>
        Idle.held.accounted fun resource => (Idle.record _ _).accounted fun _ =>
          (Idle.publishAny details).accounted fun _ => accounted_finish _ _) _ held hfair.create

theorem accounted_delete : Accounted (delete client.overheard options) := by
  refine (Idle.setCondition _).accounted fun _ => ?_
  intro notes held hfair
  have htold := audits_within (audits_remote_delete hsilent.delete notes held) hfair
  refine Work.audits_andThen htold ?_ ?_
  · rintro _ held value rfl
    exact accounted_finish "deleting" options.shortWait _ held hfair.delete
  · rintro _ held fault rfl
    exact hfair

theorem accounted_maintain (observation : Observation) :
    Accounted (maintain client.overheard options observation) := by
  refine (Idle.publishAny _).accounted fun _ => ?_
  cases observation.upToDate with
  | true => exact accounted_finish _ _
  | false =>
      exact (Idle.relay hsilent.update).accounted fun details =>
        (Idle.publishAny details).accounted fun _ => accounted_finish _ _

theorem accounted_drive : Accounted (drive client.overheard options) := by
  refine (Idle.relay hsilent.observe).accounted fun observation => Idle.held.accounted
    fun resource => ?_
  cases resource.isDeleting with
  | true =>
      cases observation.resourceExists with
      | true => exact accounted_delete hsilent options
      | false => exact accounted_release
  | false =>
      refine Idle.hold.accounted fun _ => ?_
      cases observation.resourceExists with
      | true => exact accounted_maintain hsilent options observation
      | false => exact accounted_create hsilent options

end

/-- A pass that is given up has come to no requeue, or it was about to disconnect. -/
def Halted (slow : Prop) (notes : Notes) : Prop :=
  Fair 0 notes ∨ slow ∧ Fair 1 notes ∧ .leaving ∈ notes.remarks

theorem Fair.halted {slow : Prop} {result : Except Fault Action} (hfair : Fair (dueOf result) notes)
    (htakes : slow) : Halted slow { notes with remarks := .leaving :: notes.remarks } := by
  have hleft := hfair.leave
  cases result with
  | error fault => exact .inl hleft
  | ok action =>
      cases action with
      | requeue after => exact .inr ⟨htakes, hleft, List.mem_cons_self⟩
      | awaitChange => exact .inl hleft

theorem audits_disconnect {slow : Prop} {client : Client R} (hquiet : Quiet client.disconnect)
    (hleaves : ∀ held, (client.disconnect held).Asks (fun _ _ => slow) fun _ _ => True)
    {result : Except Fault Action} (hfair : Fair (dueOf result) notes) (held : Credentials) :
    (ofRemote client.overheard.disconnect held).Audits hearing (Halted slow)
      (fun books _ _ => Fair (dueOf result) books) notes := by
  change Script.Audits _ _ _
      (ofRemote (remark .leaving >>= fun _ => relay client.disconnect) held) _
  rw [ofRemote_bind]
  refine ⟨fun hrelied => absurd (hrelied _ _ rfl rfl) (by simp), fun _ _ => ?_⟩
  refine (audits_relay (hquiet held) ((hleaves held).mono fun _ _ htakes => hfair.halted htakes)).imp
    (fun _ => id) ?_
  rintro _ held _ ⟨rfl, -⟩
  exact hfair.leave

section

variable {connector : Connector R} {slow : Prop} (hsilent : connector.Silent)
  (hleaves : connector.Leaves slow) (options : PassOptions)

include hsilent hleaves

theorem audits_connected (hfair : Fair 0 notes) (held : Credentials) :
    (connected connector.overheard options held).Audits hearing (Halted slow)
      (fun books _ result => Fair (dueOf result) books) notes := by
  rw [connected_overheard]
  refine Work.audits_andThen
    (audits_relay (hsilent held) ((hleaves held).mono fun _ _ _ => .inl hfair)) ?_ ?_
  · rintro _ held client ⟨rfl, hquiet, hleaving⟩
    have hdriven := accounted_drive (hquiet client rfl) options _ held hfair
    refine (Script.audits_bind _ _ _).mpr (Work.audits_attempt.mpr (hdriven.imp (fun _ => .inl) ?_))
    intro books held outcome hfair
    have hleft := audits_disconnect (hquiet client rfl).disconnect (hleaving client rfl) hfair held
    refine (Script.audits_bind _ _ _).mpr (Work.audits_attempt.mpr (hleft.imp (fun _ => id) ?_))
    intro books held _ hfair
    exact Work.audits_ofExcept.mpr hfair
  · rintro _ held fault ⟨rfl, -⟩
    exact hfair

/-- Whatever is created or deleted in a pass is counted, and a requeue that it comes to. -/
theorem audits_run (hfair : Fair 0 notes) (held : Credentials) :
    (run connector.overheard options held).Audits hearing (Halted slow)
      (fun books _ result => Fair (dueOf result) books) notes := by
  have haccounted {work : Step (Overheard R) Action} (haccounted : Accounted work) :
      (work held).Audits hearing (Halted slow) (fun books _ result => Fair (dueOf result) books)
        notes := (haccounted notes held hfair).imp (fun _ => .inl) fun _ _ _ => id
  change Script.Audits _ _ _ ((if _ then _ else _ : Step (Overheard R) Action) held) _
  split
  · exact haccounted (accounted_fail _)
  · split
    · exact haccounted ((Idle.setCondition _).accounted fun _ => accounted_release)
    · split
      · exact haccounted (accounted_fail _)
      · exact audits_connected hsilent hleaves options hfair held

end

end Pass

end BucketKeys
