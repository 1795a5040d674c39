import BucketKeys.Proofs.Course.Basic
import BucketKeys.Proofs.Issuance.Rehearsal

/-!
Courses whose rounds are rehearsed.
-/

namespace BucketKeys.Issuance

variable {edits : Credentials → Credentials → Prop} {start : Credentials} {state : State}

theorem Course.reaches {task : Task} {rest : Option Task}
    {moments : List (Moment (Round.interface interface))}
    (hcourse : Course edits start state (some task)) (hreached : task.Reaches moments rest) :
    Course edits start (moments.foldr State.advance state) rest := by
  induction hreached with
  | here => exact hcourse
  | step hreached hadvance ih => exact .advances ih hadvance

def State.perform (epoch : Int) (answer : (call : Pass.Call interface) → Pass.Answer call)
    (options : PassOptions) (state : State) : State :=
  ((rehearsal epoch answer options state.stored).foldr State.advance state.begin).conclude
    (ending epoch answer options state.stored).2

theorem Course.performs {task : Option Task} (hcourse : Course edits start state task)
    (epoch : Int) (answer : (call : Pass.Call interface) → Pass.Answer call)
    (options : PassOptions) :
    Course edits start (state.perform epoch answer options) none :=
  .ends ((hcourse.begins options).reaches (reaches_rehearsal epoch answer options state.stored))

theorem State.resource_advance (moment : Moment (Round.interface interface)) (state : State) :
    (state.advance moment).present.resource = state.present.resource := by
  unfold advance
  cases Round.told moment with
  | none => rfl
  | some act => rw [present_hear]

theorem State.resource_foldr_advance (moments : List (Moment (Round.interface interface)))
    (state : State) :
    (moments.foldr State.advance state).present.resource = state.present.resource := by
  induction moments with
  | nil => rfl
  | cons moment moments ih => rw [List.foldr_cons, resource_advance, ih]

end BucketKeys.Issuance
