import BucketKeys.Proofs.Script.Moments

/-!
A script has no choice of its own: what is left of it is determined by the moments that it went
through, and a run of it can be cut in two anywhere.
-/

namespace BucketKeys.Script

variable {I : Interface} {script present : Script I σ α} {moment : Moment I}
  {before after : List (Moment I)} {rest other : Option (Script I σ α)}

theorem Advances.unique (hfirst : script.Advances moment rest)
    (hsecond : script.Advances moment other) : rest = other := by
  cases hfirst with
  | asked answer => cases hsecond; rfl
  | lost => cases hsecond; rfl
  | read now => cases hsecond; rfl
  | counted => cases hsecond; rfl

theorem Reaches.unique (hfirst : script.Reaches before rest)
    (hsecond : script.Reaches before other) :
    rest = other := by
  induction hfirst generalizing other with
  | here =>
      cases hsecond
      rfl
  | step hreached hadvance ih =>
      cases hsecond with
      | step hreaches hadvances =>
          cases ih hreaches
          exact hadvance.unique hadvances

theorem Reaches.append (hfirst : script.Reaches before (some present))
    (hsecond : present.Reaches after rest) : script.Reaches (after ++ before) rest := by
  induction hsecond with
  | here => exact hfirst
  | step hreached hadvance ih => exact .step ih hadvance

theorem Reaches.of_done {held : σ} {value : α}
    (hreached : (done held value : Script I σ α).Reaches before rest) :
    before = [] ∧ rest = some (done held value) := by
  induction hreached with
  | here => exact ⟨rfl, rfl⟩
  | step hreached hadvance ih =>
      cases ih.2
      cases hadvance

theorem Reaches.of_ask {held : σ} {call : I.Call} {resume : I.Answer call → Script I σ α}
    (hreached : (ask held call resume).Reaches before rest) :
    (before = [] ∧ rest = some (ask held call resume)) ∨ (before = [.lost call] ∧ rest = none) ∨
      ∃ answer later, before = later ++ [.asked call answer] ∧
        (resume answer).Reaches later rest := by
  induction hreached with
  | here => exact .inl ⟨rfl, rfl⟩
  | step hreached hadvance ih =>
      rcases ih with ⟨rfl, hsame⟩ | ⟨rfl, lost⟩ | ⟨answer, later, rfl, honwards⟩
      · cases hsame
        cases hadvance with
        | asked answer => exact .inr (.inr ⟨answer, [], rfl, .here⟩)
        | lost => exact .inr (.inl ⟨rfl, rfl⟩)
      · cases lost
      · exact .inr (.inr ⟨answer, _ :: later, rfl, honwards.step hadvance⟩)

theorem Reaches.split (hreached : script.Reaches (after ++ moment :: before) rest) :
    ∃ present next, script.Reaches before (some present) ∧ present.Advances moment next := by
  induction after generalizing rest with
  | nil =>
      cases hreached with
      | step hreached hadvance => exact ⟨_, _, hreached, hadvance⟩
  | cons last after ih =>
      cases hreached with
      | step hreached hadvance => exact ih hreached

theorem Reaches.cut (hfirst : script.Reaches before (some present))
    (hwhole : script.Reaches (after ++ before) rest) : present.Reaches after rest := by
  induction after generalizing rest with
  | nil =>
      cases hfirst.unique hwhole
      exact .here
  | cons last after ih =>
      cases hwhole with
      | step hreached hadvance => exact .step (ih hreached) hadvance

theorem Advances.bind (hadvance : script.Advances moment (some present))
    (next : σ → α → Script I σ β) :
    (script.bind next).Advances moment (some (present.bind next)) := by
  cases hadvance with
  | asked answer => exact .asked answer
  | read now => exact .read now
  | counted => exact .counted

theorem Reaches.bind (hreached : script.Reaches before (some present))
    (next : σ → α → Script I σ β) :
    (script.bind next).Reaches before (some (present.bind next)) := by
  generalize hsame : some present = rest at hreached
  induction hreached generalizing present with
  | here =>
      cases hsame
      exact .here
  | step hreached hadvance ih =>
      cases hsame
      exact .step (ih rfl) (hadvance.bind next)

end BucketKeys.Script
