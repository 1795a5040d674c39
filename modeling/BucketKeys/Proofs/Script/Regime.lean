import BucketKeys.Proofs.Script.Asks

/-!
Surroundings that may do only certain things, which ones depending on all that happened before. What
a script comes to under them, and that it comes to an end at all.
-/

namespace BucketKeys

structure Regime (I : Interface) (G : Type) where
  allows : G → Moment I → Prop
  after : Moment I → G → G

def Moment.carried {I J : Interface} (carry : I.Call → J.Call)
    (forth : (call : I.Call) → I.Answer call → J.Answer (carry call)) : Moment I → Moment J
  | asked call answer => asked (carry call) (forth call answer)
  | lost call => lost (carry call)
  | read now => read now
  | counted event => counted event

namespace Regime

variable {I J : Interface} {G : Type}

def along (regime : Regime I G) (start : G) (moments : List (Moment I)) : G :=
  moments.foldr regime.after start

def Kept (regime : Regime I G) (start : G) : List (Moment I) → Prop
  | [] => True
  | moment :: before =>
      regime.Kept start before ∧ regime.allows (regime.along start before) moment

def pull (regime : Regime J G) (carry : I.Call → J.Call)
    (forth : (call : I.Call) → I.Answer call → J.Answer (carry call)) : Regime I G where
  allows state moment := regime.allows state (moment.carried carry forth)
  after moment := regime.after (moment.carried carry forth)

end Regime

namespace Script

variable {I J : Interface} {G : Type} {regime : Regime I G}

/-- A script can always go on, and however it does it ends as told. -/
def Under (regime : Regime I G) (ends : G → σ → α → Prop) : Script I σ α → G → Prop
  | done held value, state => ends state held value
  | ask _ call resume, state =>
      (∃ answer, regime.allows state (.asked call answer)) ∧
        ∀ answer, regime.allows state (.asked call answer) →
          (resume answer).Under regime ends (regime.after (.asked call answer) state)
  | clock resume, state =>
      (∃ now, regime.allows state (.read now)) ∧
        ∀ now, regime.allows state (.read now) →
          (resume now).Under regime ends (regime.after (.read now) state)
  | count event next, state =>
      regime.allows state (.counted event) ∧
        next.Under regime ends (regime.after (.counted event) state)

theorem Under.imp {first second : G → σ → α → Prop} {script : Script I σ α} {state : G}
    (hunder : script.Under regime first state)
    (himplies : ∀ state held value, first state held value → second state held value) :
    script.Under regime second state := by
  induction script generalizing state with
  | done held value => exact himplies state held value hunder
  | ask held call resume ih =>
      exact ⟨hunder.1, fun answer hallowed => ih answer (hunder.2 answer hallowed)⟩
  | clock resume ih =>
      exact ⟨hunder.1, fun now hallowed => ih now (hunder.2 now hallowed)⟩
  | count event next ih => exact ⟨hunder.1, ih hunder.2⟩

/-- What holds however a script is answered holds under a regime as well. -/
theorem Under.and_asks {allowed : σ → I.Call → Prop} {first : G → σ → α → Prop}
    {second : σ → α → Prop} {script : Script I σ α} {state : G}
    (hunder : script.Under regime first state) (hasks : script.Asks allowed second) :
    script.Under regime
      (fun state held value => first state held value ∧ second held value) state := by
  induction script generalizing state with
  | done held value => exact ⟨hunder, hasks⟩
  | ask held call resume ih =>
      refine ⟨hunder.1, fun answer allowed => ?_⟩
      exact ih answer (hunder.2 answer allowed) (hasks.2 answer)
  | clock resume ih =>
      exact ⟨hunder.1, fun now allowed => ih now (hunder.2 now allowed) (hasks now)⟩
  | count event next ih => exact ⟨hunder.1, ih hunder.2 hasks⟩

theorem under_bind {ends : G → τ → β → Prop} {script : Script I τ α}
    {next : τ → α → Script I τ β} {state : G} :
    (script.bind next).Under regime ends state ↔
      script.Under regime
        (fun state held value => (next held value).Under regime ends state) state := by
  induction script generalizing state with
  | done held value => rfl
  | ask held call resume ih => simp only [bind, Under, ih]
  | clock resume ih => simp only [bind, Under, ih]
  | count event rest ih => simp only [bind, Under, ih]

theorem under_through {regime : Regime J G} {carry : I.Call → J.Call}
    {back : (call : I.Call) → J.Answer (carry call) → I.Answer call}
    {forth : (call : I.Call) → I.Answer call → J.Answer (carry call)}
    (hinverse : ∀ call answer, forth call (back call answer) = answer)
    {ends : G → σ → α → Prop} {script : Script I σ α} {state : G}
    (hunder : script.Under (regime.pull carry forth) ends state) :
    (script.through carry back).Under regime ends state := by
  induction script generalizing state with
  | done held value => exact hunder
  | ask held call resume ih =>
      obtain ⟨⟨possible, hallowed⟩, hfollows⟩ := hunder
      refine ⟨⟨forth call possible, hallowed⟩, fun answer hallowed => ?_⟩
      have hcarried := ih _ (hfollows (back call answer) (by
        simpa only [Regime.pull, Moment.carried, hinverse] using hallowed))
      simpa only [Regime.pull, Moment.carried, hinverse] using hcarried
  | clock resume ih =>
      exact ⟨hunder.1, fun now hallowed => ih now (hunder.2 now hallowed)⟩
  | count event next ih => exact ⟨hunder.1, ih hunder.2⟩

theorem Under.advances {ends : G → σ → α → Prop} {script next : Script I σ α} {state : G}
    (hunder : script.Under regime ends state) {moment : Moment I}
    (hallowed : regime.allows state moment) (hadvance : script.Advances moment (some next)) :
    next.Under regime ends (regime.after moment state) := by
  cases hadvance with
  | asked answer => exact hunder.2 answer hallowed
  | read now => exact hunder.2 now hallowed
  | counted => exact hunder.2

theorem Under.reaches {ends : G → σ → α → Prop} {script : Script I σ α} {start : G}
    (hunder : script.Under regime ends start) {moments : List (Moment I)}
    {rest : Option (Script I σ α)} (hreached : script.Reaches moments rest)
    (hkept : regime.Kept start moments) :
    ∀ next, rest = some next → next.Under regime ends (regime.along start moments) := by
  induction hreached with
  | here =>
      intro next hsame
      cases hsame
      exact hunder
  | step hreached hadvance ih =>
      intro next hsame
      cases hsame
      exact (ih hkept.1 _ rfl).advances hkept.2 hadvance

theorem Under.done {ends : G → σ → α → Prop} {script : Script I σ α} {start : G}
    (hunder : script.Under regime ends start) {moments : List (Moment I)} {held : σ} {value : α}
    (hreached : script.Reaches moments (some (.done held value)))
    (hkept : regime.Kept start moments) : ends (regime.along start moments) held value :=
  hunder.reaches hreached hkept _ rfl

theorem Under.ending {ends : G → σ → α → Prop} {whole script : Script I σ α} {start : G}
    {before : List (Moment I)} (hreached : whole.Reaches before (some script))
    (hkept : regime.Kept start before)
    (hunder : script.Under regime ends (regime.along start before)) :
    ∃ moments held value, whole.Reaches moments (some (.done held value)) ∧
      regime.Kept start moments := by
  induction script generalizing before with
  | done held value => exact ⟨before, held, value, hreached, hkept⟩
  | ask held call resume ih =>
      obtain ⟨⟨answer, hallowed⟩, hfollows⟩ := hunder
      exact ih answer (hreached.step (.asked answer)) ⟨hkept, hallowed⟩ (hfollows answer hallowed)
  | clock resume ih =>
      obtain ⟨⟨now, hallowed⟩, hfollows⟩ := hunder
      exact ih now (hreached.step (.read now)) ⟨hkept, hallowed⟩ (hfollows now hallowed)
  | count event next ih =>
      exact ih (hreached.step .counted) ⟨hkept, hunder.1⟩ hunder.2

end Script

namespace Work

variable {I : Interface} {G : Type} {regime : Regime I G}

def Continues (regime : Regime I G) (next : α → Work I σ β)
    (ends : G → σ → Except Fault β → Prop) : G → σ → Except Fault α → Prop
  | state, held, .ok value => (next value held).Under regime ends state
  | state, held, .error fault => ends state held (.error fault)

theorem under_bind {work : Work I σ α} {next : α → Work I σ β}
    {ends : G → σ → Except Fault β → Prop} {held : σ} {state : G} :
    Script.Under regime ends ((work >>= next) held) state ↔
      (work held).Under regime (Continues regime next ends) state := by
  change Script.Under regime ends (work.andThen next held) state ↔ _
  rw [andThen, Script.under_bind]
  apply Iff.of_eq
  congr 1
  funext state held result
  cases result with
  | ok value => rfl
  | error fault => rfl

def Succeeds (ends : G → σ → α → Prop) : G → σ → Except Fault α → Prop
  | state, held, .ok value => ends state held value
  | _, _, .error _ => False

theorem under_succeeds {work : Script I σ (Except Fault α)} {first second : G → σ → α → Prop}
    {state : G} (hunder : work.Under regime (Succeeds first) state)
    (himplies : ∀ state held value, first state held value → second state held value) :
    work.Under regime (Succeeds second) state := by
  refine hunder.imp fun state held result hknown => ?_
  cases result with
  | ok value => exact himplies state held value hknown
  | error fault => exact hknown.elim

theorem under_andThen {work : Work I σ α} {next : α → Work I σ β}
    {middle : G → σ → α → Prop} {ends : G → σ → Except Fault β → Prop} {held : σ} {state : G}
    (hfirst : (work held).Under regime (Succeeds middle) state)
    (hfollows : ∀ state held value, middle state held value →
      (next value held).Under regime ends state) :
    Script.Under regime ends ((work >>= next) held) state := by
  refine under_bind.mpr (hfirst.imp fun state held result hknown => ?_)
  cases result with
  | ok value => exact hfollows state held value hknown
  | error fault => exact hknown.elim

theorem under_held_then {next : σ → Work I σ β} {ends : G → σ → Except Fault β → Prop}
    {held : σ} {state : G} (hfollows : (next held held).Under regime ends state) :
    Script.Under regime ends (((Work.held : Work I σ σ) >>= next) held) state :=
  under_bind.mpr hfollows

theorem under_ask_then {call : I.Call} {next : I.Answer call → Work I σ β}
    {ends : G → σ → Except Fault β → Prop} {held : σ} {state : G}
    (hpossible : ∃ answer, regime.allows state (.asked call answer))
    (hfollows : ∀ answer, regime.allows state (.asked call answer) →
      (next answer held).Under regime ends (regime.after (.asked call answer) state)) :
    Script.Under regime ends (((ask call : Work I σ (I.Answer call)) >>= next) held) state :=
  Script.under_bind.mpr ⟨hpossible, hfollows⟩

theorem under_ask_known {call : I.Call} {next : I.Answer call → Work I σ β}
    {ends : G → σ → Except Fault β → Prop} {held : σ} {state : G} {known : I.Answer call}
    (honly : ∀ answer, regime.allows state (.asked call answer) ↔ answer = known)
    (hfollows : (next known held).Under regime ends (regime.after (.asked call known) state)) :
    Script.Under regime ends (((ask call : Work I σ (I.Answer call)) >>= next) held) state := by
  refine under_ask_then ⟨known, (honly known).mpr rfl⟩ fun answer hallowed => ?_
  rw [(honly answer).mp hallowed]
  exact hfollows

theorem under_now_then {next : Time.Instant → Work I σ β}
    {ends : G → σ → Except Fault β → Prop} {held : σ} {state : G}
    (hpossible : ∃ now, regime.allows state (.read now))
    (hfollows : ∀ now, regime.allows state (.read now) →
      (next now held).Under regime ends (regime.after (.read now) state)) :
    Script.Under regime ends (((now : Work I σ Time.Instant) >>= next) held) state :=
  Script.under_bind.mpr ⟨hpossible, hfollows⟩

theorem under_attempt {work : Work I σ α} {ends : G → σ → Except Fault (Except Fault α) → Prop}
    {held : σ} {state : G} :
    (attempt work held).Under regime ends state ↔
      (work held).Under regime (fun state held result => ends state held (.ok result)) state :=
  Script.under_bind

end Work

end BucketKeys
