import BucketKeys.Proofs.Course.Performance
import BucketKeys.Proofs.Issuance.Entry

/-!
The copies of a resource that go to the store and to the publisher. However a round is answered,
each of them is the resource that the round read, with other annotations, finalizers and status at
most.
-/

namespace BucketKeys

structure Credentials.IsCopyOf (copy original : Credentials) : Prop where
  metadata : copy.metadata =
    { original.metadata with
      annotations := copy.metadata.annotations
      finalizers := copy.metadata.finalizers }
  spec : copy.spec = original.spec

namespace Credentials.IsCopyOf

variable {copy original : Credentials}

theorem refl (original : Credentials) : original.IsCopyOf original := ⟨rfl, rfl⟩

theorem name (h : copy.IsCopyOf original) : copy.metadata.name = original.metadata.name := by
  rw [h.metadata]

theorem setCondition (h : copy.IsCopyOf original) (condition : Condition) :
    (copy.setCondition condition).IsCopyOf original := ⟨h.metadata, h.spec⟩

theorem setObservation (h : copy.IsCopyOf original) (observation : TokenObservation) :
    (copy.setObservation observation).IsCopyOf original := ⟨h.metadata, h.spec⟩

theorem annotate (h : copy.IsCopyOf original) (key value : String) :
    (copy.annotate key value).IsCopyOf original := by
  refine ⟨?_, h.spec⟩
  rw [Credentials.annotate, h.metadata]

theorem setFinalizers (h : copy.IsCopyOf original) (finalizers : List String) :
    (copy.setFinalizers finalizers).IsCopyOf original := by
  refine ⟨?_, h.spec⟩
  rw [Credentials.setFinalizers, h.metadata]

end Credentials.IsCopyOf

/-- A question is put with a copy at hand, and holds none but copies. -/
def Hands (copy? : α → Option Credentials) (original held : Credentials) (call : α) : Prop :=
  held.IsCopyOf original ∧ ∀ copy ∈ copy? call, copy.IsCopyOf original

def Work.Copies {I : Interface} (copy? : I.Call → Option Credentials) (original : Credentials)
    (work : Work I Credentials α) : Prop :=
  ∀ held : Credentials, held.IsCopyOf original →
    (work held).Asks (Hands copy? original) fun held _ => held.IsCopyOf original

namespace Work.Copies

variable {I J : Interface} {copy? : I.Call → Option Credentials} {original : Credentials}

theorem bind {work : Work I Credentials α} {next : α → Work I Credentials β}
    (h : Work.Copies copy? original work)
    (hnext : ∀ value, Work.Copies copy? original (next value)) :
    Work.Copies copy? original (work >>= next) := by
  intro held hheld
  exact Work.asks_andThen (h held hheld) (fun held value hcopy => hnext value held hcopy)
    fun held fault hcopy => hcopy

theorem pure (value : α) : Work.Copies copy? original (Pure.pure value : Work I Credentials α) :=
  fun _ hheld => hheld

theorem fail (fault : Fault) :
    Work.Copies copy? original (Work.fail fault : Work I Credentials α) :=
  fun _ hheld => hheld

theorem ofExcept (result : Except Fault α) :
    Work.Copies copy? original (Work.ofExcept result : Work I Credentials α) :=
  fun _ hheld => Work.asks_ofExcept.mpr hheld

theorem modify {f : Credentials → Credentials}
    (h : ∀ held : Credentials, held.IsCopyOf original → (f held).IsCopyOf original) :
    Work.Copies copy? original (Work.modify f : Work I Credentials Unit) := h

theorem now : Work.Copies copy? original (Work.now : Work I Credentials Time.Instant) :=
  fun _ hheld _ => hheld

theorem count (event : Event) :
    Work.Copies copy? original (Work.count event : Work I Credentials Unit) :=
  fun _ hheld => hheld

theorem ask {call : I.Call} (h : ∀ copy ∈ copy? call, copy.IsCopyOf original) :
    Work.Copies copy? original (Work.ask call : Work I Credentials (I.Answer call)) :=
  fun _ hheld => ⟨⟨hheld, h⟩, fun _ => hheld⟩

theorem held_then {next : Credentials → Work I Credentials β}
    (h : ∀ held : Credentials, held.IsCopyOf original → Work.Copies copy? original (next held)) :
    Work.Copies copy? original (Work.held >>= next) :=
  fun held hheld => Work.asks_held_then (h held hheld held hheld)

theorem attempt {work : Work I Credentials α} (h : Work.Copies copy? original work) :
    Work.Copies copy? original work.attempt :=
  fun held hheld => Script.asks_bind.mpr (h held hheld)

theorem through {copies? : J.Call → Option Credentials} {carry : I.Call → J.Call}
    {back : (call : I.Call) → J.Answer (carry call) → I.Answer call}
    {work : Work I Credentials α}
    (h : Work.Copies (fun call => copies? (carry call)) original work) :
    Work.Copies copies? original (work.through carry back) :=
  fun held hheld => Script.asks_through (h held hheld)

theorem setCondition (condition : Time.Instant → Condition) :
    Work.Copies copy? original (Pass.setCondition condition : Work I Credentials Unit) :=
  now.bind fun now => modify fun _ hheld => hheld.setCondition (condition now)

end Work.Copies

namespace Pass

open Work (Copies)

variable {R : Interface} {original : Credentials}

def Call.copy? : Call R → Option Credentials
  | .remote _ => none
  | .updateAnnotations copy _ => some copy
  | .updateFinalizers copy _ => some copy
  | .updateStatus copy => some copy
  | .publish copy _ => some copy
  | .pause _ => none

abbrev Keeps (original : Credentials) (work : Work R Credentials α) : Prop :=
  Work.Copies (fun _ => none) original work

structure Client.Keeps (original : Credentials) (client : Client R) : Prop where
  observe : Pass.Keeps original client.observe
  create : Pass.Keeps original client.create
  update : Pass.Keeps original client.update
  delete : Pass.Keeps original client.delete
  disconnect : Pass.Keeps original client.disconnect

def Connector.Keeps (original : Credentials) (connector : Connector R) : Prop :=
  ∀ held : Credentials, held.IsCopyOf original →
    (connector.connect held).Asks (Hands (fun _ => none) original) fun held result =>
      held.IsCopyOf original ∧ ∀ client, result = .ok client → client.Keeps original

theorem copies_ofRemote {work : Work R Credentials α} (h : Keeps original work) :
    Copies Call.copy? original (ofRemote work) :=
  Copies.through h

theorem copies_write {call : Credentials → Call R}
    {result : (held : Credentials) → Answer (call held) → Except Fault Unit}
    (h : ∀ held, (call held).copy? = some held) :
    Copies Call.copy? original (do
      let held ← Work.held
      let answer : Answer (call held) ← Pass.ask (call held)
      Work.ofExcept (result held answer) : Step R Unit) := by
  refine Copies.held_then fun held hheld => (Copies.ask ?_).bind fun answer => Copies.ofExcept _
  intro copy hcopy
  rw [h held] at hcopy
  cases hcopy
  exact hheld

theorem copies_updateAnnotations (changes : Dictionary (Option String)) :
    Copies Call.copy? original (updateAnnotations changes : Step R Unit) :=
  copies_write fun _ => rfl

theorem copies_updateFinalizers (finalizers : List String) :
    Copies Call.copy? original (updateFinalizers finalizers : Step R Unit) :=
  copies_write fun _ => rfl

theorem copies_updateStatus : Copies Call.copy? original (updateStatus : Step R Unit) :=
  copies_write fun _ => rfl

theorem copies_publish (details : ConnectionDetails) :
    Copies Call.copy? original (publish details : Step R Unit) :=
  copies_write fun _ => rfl

theorem copies_pause (span : Time.Span) :
    Copies Call.copy? original (pause span : Step R Unit) :=
  (Copies.ask (by rintro copy ⟨⟩)).bind fun _ => Copies.pure _

theorem copies_recordFrom (changes : Dictionary (Option String)) (number more : Nat) :
    Copies Call.copy? original (recordFrom changes number more : Step R Unit) := by
  induction more generalizing number with
  | zero => exact copies_updateAnnotations changes
  | succ more ih =>
      refine (copies_updateAnnotations changes).attempt.bind fun result => ?_
      cases result with
      | ok done => exact Copies.pure _
      | error fault => exact (copies_pause _).bind fun _ => ih (number + 1)

theorem copies_publishAny (details : ConnectionDetails) :
    Copies Call.copy? original (publishAny details : Step R Unit) := by
  unfold publishAny
  split
  · exact Copies.pure _
  · exact copies_publish details

theorem copies_finish (reason : String) (after : Time.Span) :
    Copies Call.copy? original (finish reason after : Step R Action) :=
  (Copies.setCondition _).bind fun _ => copies_updateStatus.bind fun _ =>
    (Copies.count _).bind fun _ => Copies.pure _

theorem copies_annotate (key value : String) :
    Copies Call.copy? original (Work.modify (·.annotate key value) : Step R Unit) :=
  Copies.modify fun _ hheld => hheld.annotate key value

theorem copies_create {client : Client R} (h : client.Keeps original) (options : PassOptions) :
    Copies Call.copy? original (create client options) := by
  refine Copies.now.bind fun pending => (copies_updateAnnotations _).bind fun _ =>
    (copies_annotate _ _).bind fun _ => (Copies.setCondition _).bind fun _ =>
      (copies_ofRemote h.create).attempt.bind fun result => ?_
  cases result with
  | error fault =>
      exact Copies.now.bind fun failed => (copies_annotate _ _).bind fun _ =>
        (copies_recordFrom _ _ _).attempt.bind fun _ => Copies.fail fault
  | ok details =>
      exact (Copies.count _).bind fun _ => Copies.now.bind fun succeeded =>
        (copies_annotate _ _).bind fun _ => Copies.held_then fun held _ =>
          (copies_recordFrom _ _ _).bind fun _ => (copies_publishAny details).bind fun _ =>
            copies_finish _ _

theorem copies_writeFinalizers (finalizers : List String) :
    Copies Call.copy? original (do
      updateFinalizers finalizers
      Work.modify (·.setFinalizers finalizers) : Step R Unit) :=
  (copies_updateFinalizers finalizers).bind fun _ =>
    Copies.modify fun _ hheld => hheld.setFinalizers finalizers

theorem copies_release : Copies Call.copy? original (release : Step R Action) := by
  refine Copies.held_then fun held _ => ?_
  split
  · exact (copies_updateFinalizers _).bind fun _ =>
      (Copies.modify fun _ hheld => hheld.setFinalizers _).bind fun _ => Copies.pure _
  · exact Copies.pure _

theorem copies_delete {client : Client R} (h : client.Keeps original) (options : PassOptions) :
    Copies Call.copy? original (delete client options) :=
  (Copies.setCondition _).bind fun _ => (copies_ofRemote h.delete).bind fun _ =>
    (Copies.count _).bind fun _ => copies_finish _ _

theorem copies_hold : Copies Call.copy? original (hold : Step R Unit) := by
  refine Copies.held_then fun held _ => ?_
  split
  · exact copies_writeFinalizers _
  · exact Copies.pure _

theorem copies_maintain {client : Client R} (h : client.Keeps original) (options : PassOptions)
    (observation : Observation) :
    Copies Call.copy? original (maintain client options observation) := by
  refine (copies_publishAny _).bind fun _ => ?_
  split
  · exact (copies_ofRemote h.update).bind fun details => (copies_publishAny details).bind fun _ =>
      copies_finish _ _
  · exact copies_finish _ _

theorem copies_drive {client : Client R} (h : client.Keeps original) (options : PassOptions) :
    Copies Call.copy? original (drive client options) := by
  refine (copies_ofRemote h.observe).bind fun observation => Copies.held_then fun held _ => ?_
  split
  · split
    · exact copies_delete h options
    · exact copies_release
  · refine copies_hold.bind fun _ => ?_
    split
    · exact copies_maintain h options observation
    · exact copies_create h options

theorem copies_connected {connector : Connector R} (h : connector.Keeps original)
    (options : PassOptions) : Copies Call.copy? original (connected connector options) := by
  intro held hheld
  have hconnect : (ofRemote connector.connect held).Asks
      (Hands Call.copy? original) fun held result =>
        held.IsCopyOf original ∧ ∀ client, result = .ok client → client.Keeps original :=
    Script.asks_through (h held hheld)
  refine Work.asks_andThen hconnect (fun held client hclient => ?_) fun _ _ hfault => hfault.1
  have hkeeps := hclient.2 client rfl
  exact ((copies_drive hkeeps options).attempt.bind fun outcome =>
    (copies_ofRemote hkeeps.disconnect).attempt.bind fun _ => Copies.ofExcept outcome)
      held hclient.1

theorem copies_run {connector : Connector R} (h : connector.Keeps original)
    (options : PassOptions) : Copies Call.copy? original (run connector options) := by
  refine Copies.held_then fun held _ => ?_
  split
  · exact Copies.fail _
  · split
    · exact (Copies.setCondition _).bind fun _ => copies_release
    · split
      · exact Copies.fail _
      · exact copies_connected h options

end Pass

namespace Round

variable {R : Interface} {original : Credentials}

def Call.copy? : Call R → Option Credentials
  | .admission => none
  | .within _ call => call.copy?
  | .recordFailure copy => some copy

theorem copies_conclude {copy : Credentials} (h : copy.IsCopyOf original)
    (result : Except Fault Action) :
    (conclude copy result : Script (interface R) Credentials Outcome).Asks
      (Hands Call.copy? original) fun held _ => held.IsCopyOf original := by
  cases result with
  | ok action => exact h
  | error fault =>
      change Script.Asks _ _ (if _ then _ else _)
      split
      · exact h
      · intro now
        have hfailed := h.setCondition (Condition.reconcileError fault.message now)
        refine ⟨⟨hfailed, ?_⟩, fun _ => hfailed⟩
        intro other hother
        cases hother
        exact hfailed

theorem copies_run {connector : Pass.Connector R} (h : connector.Keeps original)
    (options : PassOptions) :
    (run connector options original).Asks (Hands Call.copy? original)
      fun held _ => held.IsCopyOf original := by
  have hread := Credentials.IsCopyOf.refl original
  refine ⟨⟨hread, by rintro copy ⟨⟩⟩, fun delay => ?_⟩
  dsimp only
  split
  · intro start
    have hpass : (upTo (start.later options.timeout) (.timeout options.timeout)
        (Pass.run connector options original)).Asks _ _ :=
      asks_upTo (Pass.copies_run h options original hread)
    have hasked : ∀ (held : Credentials) (call : Call R), (∃ inner, call = .within
        (start.later options.timeout) inner ∧ Hands Pass.Call.copy? original held inner) →
          Hands Call.copy? original held call := by
      rintro held call ⟨inner, rfl, hinner⟩
      exact hinner
    refine Script.asks_bind.mpr ((hpass.mono hasked).imp fun held result hend => ?_)
    intro stop
    rcases hend with hheld | ⟨-, inner, hheld, -⟩
    · exact copies_conclude hheld result
    · exact copies_conclude hheld result
  · exact hread

end Round

namespace Issuance

open Work (Copies)

variable {original : Credentials}

theorem copies_observe : Pass.Keeps original observe := by
  refine Copies.held_then fun held _ => ?_
  split
  · exact Copies.pure _
  · refine (Copies.ask (by rintro copy ⟨⟩)).bind fun answer => ?_
    split
    · split
      · exact Copies.pure _
      · exact Copies.fail _
    · exact (Copies.modify fun _ hheld => hheld.setObservation _).bind fun _ =>
        (Copies.setCondition _).bind fun _ => Copies.pure _

theorem copies_create : Pass.Keeps original create := by
  refine Copies.held_then fun held _ => Copies.bind ?_ fun groups =>
    (Copies.ask (by rintro copy ⟨⟩)).bind fun answer => ?_
  · refine (Copies.ask (by rintro copy ⟨⟩)).bind fun answer => ?_
    split
    · exact Copies.fail _
    · dsimp only
      split
      · exact Copies.fail _
      · exact Copies.pure _
  · split
    · exact Copies.fail _
    · exact (Copies.modify fun _ hheld => hheld.annotate _ _).bind fun _ => Copies.pure _

theorem copies_delete : Pass.Keeps original delete := by
  refine Copies.held_then fun held _ => ?_
  split
  · exact Copies.pure _
  · refine (Copies.ask (by rintro copy ⟨⟩)).bind fun answer => ?_
    split
    · exact Copies.pure _
    · split
      · exact Copies.pure _
      · exact Copies.fail _

theorem client_keeps : client.Keeps original :=
  ⟨copies_observe, copies_create, Copies.pure _, copies_delete, Copies.pure _⟩

theorem connector_keeps : connector.Keeps original := by
  intro held hheld
  have hlooks : ∀ (copy : Credentials) (call : Call), Looks held copy call →
      Hands (fun _ => none) original copy call := by
    rintro copy call ⟨rfl, -⟩
    exact ⟨hheld, by rintro other ⟨⟩⟩
  refine (connect_asks.mono hlooks).imp ?_
  rintro copy result ⟨rfl, -, hclient⟩
  refine ⟨hheld, fun found hfound => ?_⟩
  rw [hclient found hfound]
  exact client_keeps

/-- Each copy that went to the store or to the publisher is the resource that the round read. -/
def Chapter.Faithful (chapter : Chapter) : Prop :=
  ∀ act ∈ chapter.acts, ∀ call, act.call? = some call →
    ∀ copy ∈ call.copy?, copy.IsCopyOf chapter.resource

theorem call?_of_told {moment : Moment (Round.interface interface)} {act : Act}
    {call : Pass.Call interface} (htold : Round.told moment = some act)
    (hcall : act.call? = some call) :
    ∃ outer, moment.call? = some outer ∧ outer.copy? = call.copy? := by
  cases moment with
  | asked outer answer =>
      cases outer with
      | admission => cases htold
      | within deadline inner =>
          cases (answer : Option (Pass.Answer inner)) with
          | some answer =>
              cases htold
              cases hcall
              exact ⟨_, rfl, rfl⟩
          | none =>
              cases htold
              cases hcall
              exact ⟨_, rfl, rfl⟩
      | recordFailure copy =>
          cases htold
          cases hcall
          exact ⟨_, rfl, rfl⟩
  | lost outer =>
      cases outer with
      | admission => cases htold
      | within deadline inner =>
          cases htold
          cases hcall
          exact ⟨_, rfl, rfl⟩
      | recordFailure copy =>
          cases htold
          cases hcall
          exact ⟨_, rfl, rfl⟩
  | read now =>
      cases htold
      cases hcall
  | counted event =>
      cases htold
      cases hcall

theorem faithful_advance {state : State} {moment : Moment (Round.interface interface)}
    (hchapters : ∀ chapter ∈ state.chapters, chapter.Faithful)
    (hmoment : ∀ call, moment.call? = some call →
      ∃ held, Hands Round.Call.copy? state.present.resource held call) :
    ∀ chapter ∈ (state.advance moment).chapters, chapter.Faithful := by
  unfold State.advance
  cases htold : Round.told moment with
  | none => exact hchapters
  | some act =>
      dsimp only
      rw [State.chapters, State.present_hear, State.earlier_hear]
      obtain ⟨hpresent, hearlier⟩ := List.forall_mem_cons.mp hchapters
      refine List.forall_mem_cons.mpr ⟨List.forall_mem_cons.mpr ⟨?_, hpresent⟩, hearlier⟩
      intro call hcall copy hcopy
      obtain ⟨outer, houter, hsame⟩ := call?_of_told htold hcall
      obtain ⟨held, -, hhands⟩ := hmoment outer houter
      exact hhands copy (hsame ▸ hcopy)

/-- In every round of a course, each copy that went to the store or to the publisher is the resource
that the round read, but for annotations, finalizers and status. -/
theorem Course.faithful {edits : Credentials → Credentials → Prop} {start : Credentials}
    {state : State} {task : Option Task} (course : Course edits start state task) :
    ∀ chapter ∈ state.chapters, chapter.Faithful := by
  have hcourse : (∀ chapter ∈ state.chapters, chapter.Faithful) ∧ ∀ script, task = some script →
      script.Asks (Hands Round.Call.copy? state.present.resource)
        fun held _ => held.IsCopyOf state.present.resource := by
    induction course with
    | initial =>
        refine ⟨?_, by rintro script ⟨⟩⟩
        intro chapter hchapter act hact
        rw [List.mem_singleton.mp hchapter] at hact
        cases hact
    | changes course hchange ih =>
        cases hchange with
        | lands hlate => exact ih
        | edited hedit => exact ih
    | begins course options ih =>
        refine ⟨List.forall_mem_cons.mpr ⟨by rintro act ⟨⟩, ih.1⟩, ?_⟩
        intro script hscript
        cases hscript
        exact Round.copies_run connector_keeps options
    | @advances state task rest moment course hadvance ih =>
        obtain ⟨hmoment, hrest⟩ := (ih.2 task rfl).advances hadvance
        refine ⟨faithful_advance ih.1 hmoment, fun next hnext => ?_⟩
        rw [State.resource_advance]
        exact hrest next hnext
    | ends course ih =>
        obtain ⟨hpresent, hearlier⟩ := List.forall_mem_cons.mp ih.1
        exact ⟨List.forall_mem_cons.mpr ⟨hpresent, hearlier⟩, by rintro script ⟨⟩⟩
  exact hcourse.1

end Issuance

end BucketKeys
