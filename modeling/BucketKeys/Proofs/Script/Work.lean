import BucketKeys.Proofs.Script.Protocol

/-!
Keeping to a protocol along work that may fail: each way of composing work leaves obligations for
its parts.
-/

namespace BucketKeys.Work

variable {I J : Interface} {S : Type} {protocol : Protocol I S}

def Leads (protocol : Protocol I S) (next : α → Work I σ β)
    (ends : S → σ → Except Fault β → Prop) : S → σ → Except Fault α → Prop
  | stage, held, .ok value => (next value held).Keeps protocol ends stage
  | stage, held, .error fault => ends stage held (.error fault)

@[simp] theorem leads_ok {next : α → Work I σ β} {ends : S → σ → Except Fault β → Prop}
    {stage : S} {held : σ} {value : α} :
    Leads protocol next ends stage held (.ok value) ↔
      (next value held).Keeps protocol ends stage := Iff.rfl

@[simp] theorem leads_error {next : α → Work I σ β} {ends : S → σ → Except Fault β → Prop}
    {stage : S} {held : σ} {fault : Fault} :
    Leads protocol next ends stage held (.error fault) ↔ ends stage held (.error fault) := Iff.rfl

@[simp] theorem keeps_bind {work : Work I σ α} {next : α → Work I σ β}
    {ends : S → σ → Except Fault β → Prop} {held : σ} {stage : S} :
    Script.Keeps protocol ends ((work >>= next) held) stage ↔
      (work held).Keeps protocol (Leads protocol next ends) stage := by
  change Script.Keeps protocol ends (work.andThen next held) stage ↔ _
  rw [andThen, Script.keeps_bind]
  apply Iff.of_eq
  congr 1
  funext stage held result
  cases result with
  | ok value => rfl
  | error fault => rfl

/-- What is known behind work that is understood is enough to go on from. -/
theorem keeps_andThen {work : Work I σ α} {next : α → Work I σ β}
    {middle : S → σ → Except Fault α → Prop} {ends : S → σ → Except Fault β → Prop}
    {held : σ} {stage : S} (hfirst : (work held).Keeps protocol middle stage)
    (hok : ∀ stage held value, middle stage held (.ok value) →
      (next value held).Keeps protocol ends stage)
    (herror : ∀ stage held fault, middle stage held (.error fault) →
      ends stage held (.error fault)) :
    Script.Keeps protocol ends ((work >>= next) held) stage := by
  refine keeps_bind.mpr (hfirst.imp fun stage held result hknown => ?_)
  cases result with
  | ok value => exact hok stage held value hknown
  | error fault => exact herror stage held fault hknown

section

variable {ends : S → σ → Except Fault α → Prop} {held : σ} {stage : S}

@[simp] theorem keeps_pure {value : α} :
    Script.Keeps protocol ends ((pure value : Work I σ α) held) stage ↔
      ends stage held (.ok value) := Iff.rfl

@[simp] theorem keeps_fail {fault : Fault} :
    ((fail fault : Work I σ α) held).Keeps protocol ends stage ↔
      ends stage held (.error fault) := Iff.rfl

@[simp] theorem keeps_ofExcept {result : Except Fault α} :
    ((ofExcept result : Work I σ α) held).Keeps protocol ends stage ↔ ends stage held result := by
  cases result with
  | ok value => rfl
  | error fault => rfl

end

@[simp] theorem keeps_held {ends : S → σ → Except Fault σ → Prop} {held : σ} {stage : S} :
    ((Work.held : Work I σ σ) held).Keeps protocol ends stage ↔ ends stage held (.ok held) :=
  Iff.rfl

@[simp] theorem keeps_modify {ends : S → σ → Except Fault Unit → Prop} {f : σ → σ} {held : σ}
    {stage : S} :
    ((modify f : Work I σ Unit) held).Keeps protocol ends stage ↔
      ends stage (f held) (.ok ()) := Iff.rfl

@[simp] theorem keeps_now {ends : S → σ → Except Fault Time.Instant → Prop} {held : σ}
    {stage : S} :
    ((now : Work I σ Time.Instant) held).Keeps protocol ends stage ↔
      ∀ now, ends (protocol.read stage now) held (.ok now) := Iff.rfl

@[simp] theorem keeps_count {ends : S → σ → Except Fault Unit → Prop} {event : Event} {held : σ}
    {stage : S} :
    ((count event : Work I σ Unit) held).Keeps protocol ends stage ↔ ends stage held (.ok ()) :=
  Iff.rfl

@[simp] theorem keeps_ask {call : I.Call} {ends : S → σ → Except Fault (I.Answer call) → Prop}
    {held : σ} {stage : S} :
    ((ask call : Work I σ (I.Answer call)) held).Keeps protocol ends stage ↔
      protocol.permits stage call ∧
        ∀ answer, ends (protocol.answered stage call answer) held (.ok answer) := Iff.rfl

theorem keeps_ask_then {call : I.Call} {next : I.Answer call → Work I σ β}
    {ends : S → σ → Except Fault β → Prop} {held : σ} {stage : S}
    (hpermitted : protocol.permits stage call)
    (hfollows : ∀ answer,
      (next answer held).Keeps protocol ends (protocol.answered stage call answer)) :
    Script.Keeps protocol ends (((ask call : Work I σ (I.Answer call)) >>= next) held) stage :=
  keeps_bind.mpr (keeps_ask.mpr ⟨hpermitted, hfollows⟩)

@[simp] theorem keeps_attempt {work : Work I σ α}
    {ends : S → σ → Except Fault (Except Fault α) → Prop} {held : σ} {stage : S} :
    ((attempt work) held).Keeps protocol ends stage ↔
      (work held).Keeps protocol (fun stage held result => ends stage held (.ok result)) stage :=
  Script.keeps_bind _ _ _

end BucketKeys.Work
