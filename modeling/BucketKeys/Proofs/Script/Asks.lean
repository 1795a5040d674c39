import BucketKeys.Proofs.Script.Moments

/-!
What a script asks next to what it holds at that time, and scripts that leave the counting to
others.
-/

namespace BucketKeys

namespace Script

variable {I J : Interface} {allowed : σ → I.Call → Prop} {ends : σ → α → Prop}

/-- However a script is answered, each question is allowed with what is held when it is put, and the
end is as told. -/
def Asks (allowed : σ → I.Call → Prop) (ends : σ → α → Prop) : Script I σ α → Prop
  | done held value => ends held value
  | ask held call resume => allowed held call ∧ ∀ answer, (resume answer).Asks allowed ends
  | clock resume => ∀ now, (resume now).Asks allowed ends
  | count _ next => next.Asks allowed ends

theorem Asks.imp {first second : σ → α → Prop} {script : Script I σ α}
    (hasks : script.Asks allowed first)
    (himplies : ∀ held value, first held value → second held value) :
    script.Asks allowed second := by
  induction script with
  | done held value => exact himplies held value hasks
  | ask held call resume ih => exact ⟨hasks.1, fun answer => ih answer (hasks.2 answer)⟩
  | clock resume ih => exact fun now => ih now (hasks now)
  | count event next ih => exact ih hasks

theorem Asks.mono {permitted : σ → I.Call → Prop} {script : Script I σ α}
    (hasks : script.Asks allowed ends)
    (hgrants : ∀ held call, allowed held call → permitted held call) :
    script.Asks permitted ends := by
  induction script with
  | done held value => exact hasks
  | ask held call resume ih =>
      exact ⟨hgrants held call hasks.1, fun answer => ih answer (hasks.2 answer)⟩
  | clock resume ih => exact fun now => ih now (hasks now)
  | count event next ih => exact ih hasks

theorem asks_anything (script : Script I σ α) :
    script.Asks (fun _ _ => True) (fun _ _ => True) := by
  induction script with
  | done held value => trivial
  | ask held call resume ih => exact ⟨trivial, ih⟩
  | clock resume ih => exact ih
  | count event next ih => exact ih

theorem asks_bind {ends : σ → β → Prop} {script : Script I σ α} {next : σ → α → Script I σ β} :
    (script.bind next).Asks allowed ends ↔
      script.Asks allowed fun held value => (next held value).Asks allowed ends := by
  induction script with
  | done held value => rfl
  | ask held call resume ih => simp only [bind, Asks, ih]
  | clock resume ih => simp only [bind, Asks, ih]
  | count event rest ih => exact ih

theorem asks_through {allowed : σ → J.Call → Prop} {carry : I.Call → J.Call}
    {back : (call : I.Call) → J.Answer (carry call) → I.Answer call} {script : Script I σ α}
    (hasks : script.Asks (fun held call => allowed held (carry call)) ends) :
    (script.through carry back).Asks allowed ends := by
  induction script with
  | done held value => exact hasks
  | ask held call resume ih =>
      exact ⟨hasks.1, fun answer => ih (back call answer) (hasks.2 (back call answer))⟩
  | clock resume ih => exact fun now => ih now (hasks now)
  | count event next ih => exact ih hasks

theorem Asks.advances {script : Script I σ α} {moment : Moment I} {rest : Option (Script I σ α)}
    (hasks : script.Asks allowed ends) (hadvance : script.Advances moment rest) :
    (∀ call, moment.call? = some call → ∃ held, allowed held call) ∧
      ∀ next, rest = some next → next.Asks allowed ends := by
  cases hadvance with
  | @asked held call resume answer =>
      refine ⟨?_, ?_⟩
      · intro _ hsame
        cases hsame
        exact ⟨held, hasks.1⟩
      · intro _ hsame
        cases hsame
        exact hasks.2 answer
  | @lost held call resume =>
      refine ⟨?_, by rintro _ ⟨⟩⟩
      intro _ hsame
      cases hsame
      exact ⟨held, hasks.1⟩
  | read now =>
      refine ⟨by rintro _ ⟨⟩, ?_⟩
      intro _ hsame
      cases hsame
      exact hasks now
  | counted =>
      refine ⟨by rintro _ ⟨⟩, ?_⟩
      intro _ hsame
      cases hsame
      exact hasks

theorem Asks.reaches {script : Script I σ α} {moments : List (Moment I)}
    {rest : Option (Script I σ α)} (hasks : script.Asks allowed ends)
    (hreached : script.Reaches moments rest) :
    (∀ moment ∈ moments, ∀ call, moment.call? = some call → ∃ held, allowed held call) ∧
      ∀ next, rest = some next → next.Asks allowed ends := by
  induction hreached with
  | here =>
      refine ⟨by rintro _ ⟨⟩, ?_⟩
      intro next hsame
      cases hsame
      exact hasks
  | step hreached hadvance ih =>
      obtain ⟨hearlier, hcontinues⟩ := ih
      obtain ⟨hlast, hfollows⟩ := (hcontinues _ rfl).advances hadvance
      exact ⟨List.forall_mem_cons.mpr ⟨hlast, hearlier⟩, hfollows⟩

/-- The script counts nothing, and comes to an end as told. -/
def Silent (ends : σ → α → Prop) : Script I σ α → Prop
  | done held value => ends held value
  | ask _ _ resume => ∀ answer, (resume answer).Silent ends
  | clock resume => ∀ now, (resume now).Silent ends
  | count _ _ => False

theorem Silent.imp {first second : σ → α → Prop} {script : Script I σ α}
    (hsilent : script.Silent first)
    (himplies : ∀ held value, first held value → second held value) :
    script.Silent second := by
  induction script with
  | done held value => exact himplies held value hsilent
  | ask held call resume ih => exact fun answer => ih answer (hsilent answer)
  | clock resume ih => exact fun now => ih now (hsilent now)
  | count event next ih => exact hsilent

theorem silent_bind {ends : τ → β → Prop} (script : Script I τ α) (next : τ → α → Script I τ β) :
    (script.bind next).Silent ends ↔
      script.Silent fun held value => (next held value).Silent ends := by
  induction script with
  | done held value => rfl
  | ask held call resume ih => simp only [bind, Silent, ih]
  | clock resume ih => simp only [bind, Silent, ih]
  | count event rest ih => rfl

theorem silent_through {carry : I.Call → J.Call}
    {back : (call : I.Call) → J.Answer (carry call) → I.Answer call} {ends : σ → α → Prop}
    {script : Script I σ α} (hsilent : script.Silent ends) :
    (script.through carry back).Silent ends := by
  induction script with
  | done held value => exact hsilent
  | ask held call resume ih => exact fun answer => ih _ (hsilent (back call answer))
  | clock resume ih => exact fun now => ih now (hsilent now)
  | count event next ih => exact hsilent

end Script

namespace Work

variable {I J : Interface} {allowed : σ → I.Call → Prop}

theorem asks_andThen {work : Work I σ α} {next : α → Work I σ β}
    {middle : σ → Except Fault α → Prop} {ends : σ → Except Fault β → Prop} {held : σ}
    (hfirst : (work held).Asks allowed middle)
    (hok : ∀ held value, middle held (.ok value) → (next value held).Asks allowed ends)
    (herror : ∀ held fault, middle held (.error fault) → ends held (.error fault)) :
    Script.Asks allowed ends ((work >>= next) held) := by
  refine Script.asks_bind.mpr (hfirst.imp fun held result hknown => ?_)
  cases result with
  | ok value => exact hok held value hknown
  | error fault => exact herror held fault hknown

theorem asks_ask_then {call : I.Call} {next : I.Answer call → Work I σ β}
    {ends : σ → Except Fault β → Prop} {held : σ} (hpermitted : allowed held call)
    (hfollows : ∀ answer, (next answer held).Asks allowed ends) :
    Script.Asks allowed ends (((ask call : Work I σ (I.Answer call)) >>= next) held) :=
  Script.asks_bind.mpr ⟨hpermitted, hfollows⟩

theorem asks_held_then {next : σ → Work I σ β} {ends : σ → Except Fault β → Prop} {held : σ}
    (hfollows : (next held held).Asks allowed ends) :
    Script.Asks allowed ends (((Work.held : Work I σ σ) >>= next) held) :=
  Script.asks_bind.mpr hfollows

theorem asks_ofExcept {ends : σ → Except Fault α → Prop} {held : σ} {result : Except Fault α} :
    ((ofExcept result : Work I σ α) held).Asks allowed ends ↔ ends held result := by
  cases result with
  | ok value => rfl
  | error fault => rfl

theorem silent_andThen {work : Work I σ α} {next : α → Work I σ β}
    {middle : σ → Except Fault α → Prop} {ends : σ → Except Fault β → Prop} {held : σ}
    (hfirst : (work held).Silent middle)
    (hok : ∀ held value, middle held (.ok value) → (next value held).Silent ends)
    (herror : ∀ held fault, middle held (.error fault) → ends held (.error fault)) :
    Script.Silent ends ((work >>= next) held) := by
  refine (Script.silent_bind _ _).mpr (hfirst.imp fun held result hknown => ?_)
  cases result with
  | ok value => exact hok held value hknown
  | error fault => exact herror held fault hknown

def Quiet (work : Work I σ α) : Prop :=
  ∀ held, (work held).Silent fun _ _ => True

namespace Quiet

theorem bind {work : Work I σ α} {next : α → Work I σ β} (hquiet : Quiet work)
    (hfollows : ∀ value, Quiet (next value)) : Quiet (work >>= next) := fun held =>
  silent_andThen (hquiet held) (fun held value _ => hfollows value held) fun _ _ _ => trivial

theorem pure (value : α) : Quiet (Pure.pure value : Work I σ α) := fun _ => trivial

theorem fail (fault : Fault) : Quiet (Work.fail fault : Work I σ α) := fun _ => trivial

theorem held : Quiet (Work.held : Work I σ σ) := fun _ => trivial

theorem modify (f : σ → σ) : Quiet (Work.modify f : Work I σ Unit) := fun _ => trivial

theorem now : Quiet (Work.now : Work I σ Time.Instant) := fun _ _ => trivial

theorem ask (call : I.Call) : Quiet (Work.ask call : Work I σ (I.Answer call)) := fun _ _ => trivial

theorem ofExcept (result : Except Fault α) : Quiet (Work.ofExcept result : Work I σ α) := by
  cases result with
  | ok value => exact pure value
  | error fault => exact fail fault

theorem attempt {work : Work I σ α} (hquiet : Quiet work) : Quiet work.attempt := fun held =>
  (Script.silent_bind _ _).mpr ((hquiet held).imp fun _ _ _ => trivial)

theorem through {carry : I.Call → J.Call}
    {back : (call : I.Call) → J.Answer (carry call) → I.Answer call} {work : Work I σ α}
    (hquiet : Quiet work) : Quiet (work.through carry back) := fun held =>
  Script.silent_through (hquiet held)

end Quiet

end Work

end BucketKeys
