import BucketKeys.Proofs.Script.Moments

/-!
Two scripts that put questions of one look, and go on alike after answers that are alike, cannot be
told apart by the look of what they do.
-/

namespace BucketKeys

/-- Both values are there and alike, or both are missing for the same reason. -/
inductive Results (ends : α → β → Prop) : Except ε α → Except ε β → Prop where
  | ok {value : α} {other : β} (alike : ends value other) : Results ends (.ok value) (.ok other)
  | error (fault : ε) : Results ends (.error fault) (.error fault)

theorem Results.same {ends : α → α → Prop} (hreflexive : ∀ value, ends value value)
    (result : Except ε α) : Results ends result result := by
  cases result with
  | ok value => exact .ok (hreflexive value)
  | error fault => exact .error fault

theorem Results.eq {first second : Except ε α} (halike : Results Eq first second) :
    first = second := by
  cases halike with
  | ok hsame => exact congrArg Except.ok hsame
  | error fault => rfl

/-- How questions look, and when the answers to two questions of one look are alike. -/
structure Likeness (I : Interface) where
  View : Type
  shown : I.Call → View
  alike : (first second : I.Call) → I.Answer first → I.Answer second → Prop

inductive Glimpse (V : Type) where
  | asked (view : V)
  | lost (view : V)
  | read (now : Time.Instant)
  | counted (event : Event)

namespace Likeness

variable {I J : Interface}

def glimpse (likeness : Likeness I) : Moment I → Glimpse likeness.View
  | .asked call _ => .asked (likeness.shown call)
  | .lost call => .lost (likeness.shown call)
  | .read now => .read now
  | .counted event => .counted event

/-- The surroundings make no difference between questions of one look, and have one clock. -/
def Even (likeness : Likeness I) : Moment I → Moment I → Prop
  | .asked call answer, .asked other reply =>
      likeness.shown call = likeness.shown other → likeness.alike call other answer reply
  | .asked call _, .lost other => likeness.shown call ≠ likeness.shown other
  | .lost call, .asked other _ => likeness.shown call ≠ likeness.shown other
  | .read now, .read time => now = time
  | _, _ => True

/-- As long as two runs look the same, the surroundings treat them evenly. -/
inductive Fair (likeness : Likeness I) : List (Moment I) → List (Moment I) → Prop where
  | start : Fair likeness [] []
  | next {before earlier : List (Moment I)} {moment other : Moment I}
      (fair : Fair likeness before earlier)
      (even : before.map likeness.glimpse = earlier.map likeness.glimpse →
        likeness.Even moment other) : Fair likeness (moment :: before) (other :: earlier)

end Likeness

namespace Script

variable {I J : Interface} {likeness : Likeness I}

inductive Twins (likeness : Likeness I) (ends : α → β → Prop) :
    Script I σ α → Script I σ β → Prop where
  | done {held : σ} {value : α} {other : β} (alike : ends value other) :
      Twins likeness ends (.done held value) (.done held other)
  | ask {held : σ} {call other : I.Call} {resume : I.Answer call → Script I σ α}
      {continued : I.Answer other → Script I σ β}
      (same : likeness.shown call = likeness.shown other)
      (follows : ∀ answer reply, likeness.alike call other answer reply →
        Twins likeness ends (resume answer) (continued reply)) :
      Twins likeness ends (.ask held call resume) (.ask held other continued)
  | clock {resume : Time.Instant → Script I σ α} {continued : Time.Instant → Script I σ β}
      (follows : ∀ now, Twins likeness ends (resume now) (continued now)) :
      Twins likeness ends (.clock resume) (.clock continued)
  | count {event : Event} {next : Script I σ α} {other : Script I σ β}
      (follows : Twins likeness ends next other) :
      Twins likeness ends (.count event next) (.count event other)

namespace Twins

variable {ends : α → β → Prop} {script : Script I σ α} {other : Script I σ β}

theorem bind {later : γ → δ → Prop} {next : σ → α → Script I σ γ} {continued : σ → β → Script I σ δ}
    (htwins : script.Twins likeness ends other)
    (hfollows : ∀ held value result, ends value result →
      (next held value).Twins likeness later (continued held result)) :
    (script.bind next).Twins likeness later (other.bind continued) := by
  induction htwins with
  | done halike => exact hfollows _ _ _ halike
  | ask hsame _ ih => exact .ask hsame ih
  | clock _ ih => exact .clock ih
  | count _ ih => exact .count ih

theorem through {outer : Likeness J} {carry : I.Call → J.Call}
    {back : (call : I.Call) → J.Answer (carry call) → I.Answer call}
    (hshown : ∀ call other, likeness.shown call = likeness.shown other →
      outer.shown (carry call) = outer.shown (carry other))
    (halike : ∀ call other answer reply, outer.alike (carry call) (carry other) answer reply →
      likeness.alike call other (back call answer) (back other reply))
    (htwins : script.Twins likeness ends other) :
    (script.through carry back).Twins outer ends (other.through carry back) := by
  induction htwins with
  | done hended => exact .done hended
  | ask hsame _ ih =>
      exact .ask (hshown _ _ hsame) fun answer reply htold =>
        ih _ _ (halike _ _ answer reply htold)
  | clock _ ih => exact .clock ih
  | count _ ih => exact .count ih

/-- One step of each, treated evenly, looks the same and leads to twins. -/
theorem advances {moment instead : Moment I} {rest : Option (Script I σ α)}
    {left : Option (Script I σ β)} (htwins : script.Twins likeness ends other)
    (hadvance : script.Advances moment rest) (hstep : other.Advances instead left)
    (heven : likeness.Even moment instead) :
    likeness.glimpse moment = likeness.glimpse instead ∧
      Option.Rel (Twins likeness ends) rest left := by
  cases htwins with
  | done halike => cases hadvance
  | ask hsame hfollows =>
      cases hadvance with
      | asked answer =>
          cases hstep with
          | asked reply =>
              exact ⟨congrArg Glimpse.asked hsame, .some (hfollows answer reply (heven hsame))⟩
          | lost => exact absurd hsame heven
      | lost =>
          cases hstep with
          | asked reply => exact absurd hsame heven
          | lost => exact ⟨congrArg Glimpse.lost hsame, .none⟩
  | clock hfollows =>
      cases hadvance with
      | read now =>
          cases hstep with
          | read time =>
              cases (heven : now = time)
              exact ⟨rfl, .some (hfollows now)⟩
  | count hfollows =>
      cases hadvance
      cases hstep
      exact ⟨rfl, .some hfollows⟩

/-- Runs of twins that are treated fairly look the same, and leave twins behind. -/
theorem reaches {moments instead : List (Moment I)} {rest : Option (Script I σ α)}
    {left : Option (Script I σ β)} (htwins : script.Twins likeness ends other)
    (hfair : likeness.Fair moments instead) (hreached : script.Reaches moments rest)
    (hreaches : other.Reaches instead left) :
    moments.map likeness.glimpse = instead.map likeness.glimpse ∧
      Option.Rel (Twins likeness ends) rest left := by
  induction hfair generalizing rest left with
  | start =>
      cases hreached
      cases hreaches
      exact ⟨rfl, .some htwins⟩
  | next hfair heven ih =>
      cases hreached with
      | step hreached hadvance =>
          cases hreaches with
          | step hreaches step =>
              obtain ⟨hsame, hpresent⟩ := ih hreached hreaches
              cases hpresent with
              | some hpresent =>
                  obtain ⟨hseen, rest⟩ := hpresent.advances hadvance step (heven hsame)
                  exact ⟨by rw [List.map_cons, List.map_cons, hseen, hsame], rest⟩

end Twins

end Script

namespace Work

variable {I J : Interface} {likeness : Likeness I}

def Twins (likeness : Likeness I) (ends : α → β → Prop) (work : Work I σ α) (other : Work I σ β) :
    Prop :=
  ∀ held, (work held).Twins likeness (Results ends) (other held)

namespace Twins

variable {ends : α → β → Prop} {work : Work I σ α} {other : Work I σ β}

theorem bind {later : γ → δ → Prop} {next : α → Work I σ γ} {continued : β → Work I σ δ}
    (htwins : Work.Twins likeness ends work other)
    (hfollows : ∀ value result, ends value result →
      Work.Twins likeness later (next value) (continued result)) :
    Work.Twins likeness later (work >>= next) (other >>= continued) := by
  refine fun held => (htwins held).bind fun held value result halike => ?_
  cases halike with
  | ok halike => exact hfollows _ _ halike held
  | error fault => exact .done (.error fault)

theorem pure {value : α} {result : β} (halike : ends value result) :
    Work.Twins likeness ends (Pure.pure value : Work I σ α) (Pure.pure result) :=
  fun _ => .done (.ok halike)

theorem fail (fault : Fault) :
    Work.Twins likeness ends (Work.fail fault : Work I σ α) (Work.fail fault) :=
  fun _ => .done (.error fault)

theorem ofExcept {result : Except Fault α} {instead : Except Fault β}
    (halike : Results ends result instead) :
    Work.Twins likeness ends (Work.ofExcept result : Work I σ α) (Work.ofExcept instead) := by
  cases halike with
  | ok halike => exact .pure halike
  | error fault => exact .fail fault

theorem held : Work.Twins likeness Eq (Work.held : Work I σ σ) Work.held :=
  fun _ => .done (.ok rfl)

theorem modify (f : σ → σ) : Work.Twins likeness Eq (Work.modify f : Work I σ Unit)
    (Work.modify f) :=
  fun _ => .done (.ok rfl)

theorem now : Work.Twins likeness Eq (Work.now : Work I σ Time.Instant) Work.now :=
  fun _ => .clock fun _ => .done (.ok rfl)

theorem count (event : Event) :
    Work.Twins likeness Eq (Work.count event : Work I σ Unit) (Work.count event) :=
  fun _ => .count (.done (.ok rfl))

theorem ask {call other : I.Call} (hsame : likeness.shown call = likeness.shown other) :
    Work.Twins likeness (likeness.alike call other) (Work.ask call : Work I σ (I.Answer call))
      (Work.ask other) :=
  fun _ => .ask hsame fun _ _ halike => .done (.ok halike)

theorem attempt (htwins : Work.Twins likeness ends work other) :
    Work.Twins likeness (Results ends) work.attempt other.attempt :=
  fun held => (htwins held).bind fun _ _ _ halike => .done (.ok halike)

theorem through {outer : Likeness J} {carry : I.Call → J.Call}
    {back : (call : I.Call) → J.Answer (carry call) → I.Answer call}
    (hshown : ∀ call other, likeness.shown call = likeness.shown other →
      outer.shown (carry call) = outer.shown (carry other))
    (halike : ∀ call other answer reply, outer.alike (carry call) (carry other) answer reply →
      likeness.alike call other (back call answer) (back other reply))
    (htwins : Work.Twins likeness ends work other) :
    Work.Twins outer ends (work.through carry back) (other.through carry back) :=
  fun held => (htwins held).through hshown halike

theorem bind_eq {later : γ → δ → Prop} {work other : Work I σ α} {next : α → Work I σ γ}
    {continued : α → Work I σ δ} (htwins : Work.Twins likeness Eq work other)
    (hfollows : ∀ value, Work.Twins likeness later (next value) (continued value)) :
    Work.Twins likeness later (work >>= next) (other >>= continued) :=
  htwins.bind fun value _ hsame => hsame ▸ hfollows value

end Twins

end Work

/-- The same in all but what they answer, and their answers are alike. -/
structure Surroundings.Alike {I : Interface} (likeness : Likeness I)
    (first second : Surroundings I W) : Prop where
  now : first.now = second.now
  count : first.count = second.count
  answer : ∀ call other world, likeness.shown call = likeness.shown other →
    likeness.alike call other (first.answer call world).1 (second.answer other world).1 ∧
      (first.answer call world).2 = (second.answer other world).2

theorem Script.Twins.fair {I : Interface} {likeness : Likeness I} {ends : α → β → Prop}
    {script : Script I σ α} {other : Script I σ β} {first second : Surroundings I W}
    (htwins : script.Twins likeness ends other) (halike : first.Alike likeness second)
    {before earlier : List (Moment I)} (hfair : likeness.Fair before earlier) (world : W) :
    likeness.Fair (script.recite first world before) (other.recite second world earlier) := by
  induction htwins generalizing before earlier world with
  | done hended => exact hfair
  | @ask _ call other _ _ hsame _ ih =>
      have ⟨htold, honward⟩ := halike.answer call other world hsame
      have heven : likeness.Even (.asked call (first.answer call world).1)
          (.asked other (second.answer other world).1) := fun _ => htold
      unfold recite
      dsimp only
      rw [← honward]
      exact ih _ _ htold (hfair.next fun _ => heven) _
  | clock _ ih =>
      have heven : likeness.Even (.read (first.now world)) (.read (first.now world)) := rfl
      unfold recite
      dsimp only
      rw [← halike.now]
      exact ih _ (hfair.next fun _ => heven) world
  | @count event _ _ _ ih =>
      have heven : likeness.Even (.counted event) (.counted event) := trivial
      unfold recite
      rw [← halike.count]
      exact ih (hfair.next fun _ => heven) _

end BucketKeys
