import BucketKeys.Proofs.Script.Moments

/-!
Protocols say which questions may be put at each stage of an exchange, and to which stage each
answer leads. A script keeps to a protocol if every way of answering it does.
-/

namespace BucketKeys

structure Protocol (I : Interface) (S : Type) where
  permits : S → I.Call → Prop
  answered : S → (call : I.Call) → I.Answer call → S
  read : S → Time.Instant → S
  cutOff : S

namespace Protocol

variable {I J : Interface} {S : Type}

def next (protocol : Protocol I S) (stage : S) : Moment I → S
  | .asked call answer => protocol.answered stage call answer
  | .lost _ => protocol.cutOff
  | .read now => protocol.read stage now
  | .counted _ => stage

def stageAfter (protocol : Protocol I S) (start : S) : List (Moment I) → S
  | [] => start
  | moment :: before => protocol.next (protocol.stageAfter start before) moment

def Kept (protocol : Protocol I S) (start : S) : List (Moment I) → Prop
  | [] => True
  | moment :: before =>
      protocol.Kept start before ∧
        ∀ call, moment.call? = some call → protocol.permits (protocol.stageAfter start before) call

theorem Kept.permitted {protocol : Protocol I S} {start : S} {after before : List (Moment I)}
    {moment : Moment I} {call : I.Call} (hkept : protocol.Kept start (after ++ moment :: before))
    (hcall : moment.call? = some call) :
    protocol.Kept start before ∧ protocol.permits (protocol.stageAfter start before) call := by
  induction after with
  | nil => exact ⟨hkept.1, hkept.2 call hcall⟩
  | cons last after ih => exact ih hkept.1

def pull (protocol : Protocol J S) (carry : I.Call → J.Call)
    (forth : (call : I.Call) → I.Answer call → J.Answer (carry call)) : Protocol I S where
  permits stage call := protocol.permits stage (carry call)
  answered stage call answer := protocol.answered stage (carry call) (forth call answer)
  read := protocol.read
  cutOff := protocol.cutOff

end Protocol

namespace Script

variable {I J : Interface} {S : Type} {protocol : Protocol I S}

/-- However a script is answered, it asks only what is permitted, and comes to an end as told. -/
def Keeps (protocol : Protocol I S) (ends : S → σ → α → Prop) : Script I σ α → S → Prop
  | done held value, stage => ends stage held value
  | ask _ call resume, stage =>
      protocol.permits stage call ∧
        ∀ answer, (resume answer).Keeps protocol ends (protocol.answered stage call answer)
  | clock resume, stage => ∀ now, (resume now).Keeps protocol ends (protocol.read stage now)
  | count _ next, stage => next.Keeps protocol ends stage

@[simp] theorem keeps_done {ends : S → σ → α → Prop} {held : σ} {value : α} {stage : S} :
    (done held value : Script I σ α).Keeps protocol ends stage ↔ ends stage held value := Iff.rfl

@[simp] theorem keeps_ask {ends : S → σ → α → Prop} {held : σ} {call : I.Call}
    {resume : I.Answer call → Script I σ α} {stage : S} :
    (ask held call resume).Keeps protocol ends stage ↔
      protocol.permits stage call ∧
        ∀ answer, (resume answer).Keeps protocol ends (protocol.answered stage call answer) :=
  Iff.rfl

@[simp] theorem keeps_clock {ends : S → σ → α → Prop} {resume : Time.Instant → Script I σ α}
    {stage : S} :
    (clock resume).Keeps protocol ends stage ↔
      ∀ now, (resume now).Keeps protocol ends (protocol.read stage now) := Iff.rfl

@[simp] theorem keeps_count {ends : S → σ → α → Prop} {event : Event} {next : Script I σ α}
    {stage : S} :
    (count event next).Keeps protocol ends stage ↔ next.Keeps protocol ends stage := Iff.rfl

theorem Keeps.imp {first second : S → σ → α → Prop} {script : Script I σ α} {stage : S}
    (hkeeps : script.Keeps protocol first stage)
    (himplies : ∀ stage held value, first stage held value → second stage held value) :
    script.Keeps protocol second stage := by
  induction script generalizing stage with
  | done held value => exact himplies stage held value hkeeps
  | ask held call resume ih =>
      exact ⟨hkeeps.1, fun answer => ih answer (hkeeps.2 answer)⟩
  | clock resume ih => exact fun now => ih now (hkeeps now)
  | count event next ih => exact ih hkeeps

theorem keeps_bind {ends : S → τ → β → Prop} (script : Script I τ α)
    (next : τ → α → Script I τ β) (stage : S) :
    (script.bind next).Keeps protocol ends stage ↔
      script.Keeps protocol
        (fun stage held value => (next held value).Keeps protocol ends stage) stage := by
  induction script generalizing stage with
  | done held value => rfl
  | ask held call resume ih => simp only [bind, keeps_ask, ih]
  | clock resume ih => simp only [bind, keeps_clock, ih]
  | count event rest ih => exact ih stage

/-- A script keeps to a protocol through another interface as it keeps to the part of the protocol
that it can reach. -/
theorem keeps_through {protocol : Protocol J S} {carry : I.Call → J.Call}
    {back : (call : I.Call) → J.Answer (carry call) → I.Answer call}
    {forth : (call : I.Call) → I.Answer call → J.Answer (carry call)}
    (hinverse : ∀ call answer, forth call (back call answer) = answer)
    {ends : S → σ → α → Prop} {script : Script I σ α} {stage : S}
    (hkeeps : script.Keeps (protocol.pull carry forth) ends stage) :
    (script.through carry back).Keeps protocol ends stage := by
  induction script generalizing stage with
  | done held value => exact hkeeps
  | ask held call resume ih =>
      refine ⟨hkeeps.1, fun answer => ?_⟩
      have hcarried := ih _ (hkeeps.2 (back call answer))
      simpa only [Protocol.pull, hinverse] using hcarried
  | clock resume ih => exact fun now => ih now (hkeeps now)
  | count event next ih => exact ih hkeeps

theorem Keeps.advances {ends : S → σ → α → Prop} {script : Script I σ α} {stage : S}
    (hkeeps : script.Keeps protocol ends stage) {moment : Moment I}
    {rest : Option (Script I σ α)} (hadvance : script.Advances moment rest) :
    (∀ call, moment.call? = some call → protocol.permits stage call) ∧
      ∀ next, rest = some next → next.Keeps protocol ends (protocol.next stage moment) := by
  cases hadvance with
  | asked answer =>
      refine ⟨?_, ?_⟩
      · intro call hsame
        cases hsame
        exact hkeeps.1
      · intro next hsame
        cases hsame
        exact hkeeps.2 answer
  | lost =>
      refine ⟨?_, ?_⟩
      · intro call hsame
        cases hsame
        exact hkeeps.1
      · intro next hsame
        cases hsame
  | read now =>
      refine ⟨?_, ?_⟩
      · intro call hsame
        cases hsame
      · intro next hsame
        cases hsame
        exact hkeeps now
  | counted =>
      refine ⟨?_, ?_⟩
      · intro call hsame
        cases hsame
      · intro next hsame
        cases hsame
        exact hkeeps

end Script

end BucketKeys
