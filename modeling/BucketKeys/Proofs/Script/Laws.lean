import BucketKeys.Script

/-!
Scripts and work in sequence.
-/

namespace BucketKeys

namespace Script

variable {I J : Interface}

@[simp] theorem bind_done_right (script : Script I σ α) : script.bind .done = script := by
  induction script with
  | done held value => rfl
  | ask held call resume ih => simp only [bind, ih]
  | clock resume ih => simp only [bind, ih]
  | count event rest ih => simp only [bind, ih]

theorem through_bind {carry : I.Call → J.Call}
    {back : (call : I.Call) → J.Answer (carry call) → I.Answer call} (script : Script I σ α)
    (next : σ → α → Script I σ β) :
    (script.bind next).through carry back =
      (script.through carry back).bind fun held value => (next held value).through carry back := by
  induction script with
  | done held value => rfl
  | ask held call resume ih => simp only [bind, through, ih]
  | clock resume ih => simp only [bind, through, ih]
  | count event rest ih => simp only [bind, through, ih]

end Script

namespace Work

variable {I J : Interface}

theorem andThen_pure (work : Work I σ α) : work.andThen pure = work := by
  funext held
  refine (congrArg (work held).bind ?_).trans (work held).bind_done_right
  funext held result
  cases result <;> rfl

theorem andThen_assoc (work : Work I σ α) (first : α → Work I σ β) (second : β → Work I σ γ) :
    (work.andThen first).andThen second =
      work.andThen fun value => (first value).andThen second := by
  funext held
  refine (Script.bind_assoc _ _ _).trans (congrArg (work held).bind ?_)
  funext held result
  cases result <;> rfl

instance : LawfulMonad (Work I σ) :=
  .mk' (Work I σ) andThen_pure (fun _ _ => rfl) andThen_assoc

theorem attempt_ofExcept (work : Work I σ α) : (work.attempt >>= ofExcept) = work := by
  funext held
  change ((work held).bind _).bind _ = _
  rw [Script.bind_assoc]
  refine (congrArg (work held).bind ?_).trans (work held).bind_done_right
  funext held result
  cases result <;> rfl

theorem through_bind {carry : I.Call → J.Call}
    {back : (call : I.Call) → J.Answer (carry call) → I.Answer call} (work : Work I σ α)
    (next : α → Work I σ β) :
    (work >>= next).through carry back =
      work.through carry back >>= fun value => (next value).through carry back := by
  funext held
  refine (Script.through_bind _ _).trans (congrArg ((work held).through carry back).bind ?_)
  funext held result
  cases result <;> rfl

end Work

end BucketKeys
