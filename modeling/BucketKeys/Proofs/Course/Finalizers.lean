import BucketKeys.Proofs.Cluster.Writes
import BucketKeys.Proofs.Course.Performance
import BucketKeys.Proofs.Issuance.Deletion
import BucketKeys.Proofs.Script.Determinism

/-!
The finalizers of a resource when others write them too. A round replaces the whole list by the one
it read at its beginning, but for the finalizer of the controller.
-/

namespace BucketKeys

open Bookkeeping

namespace Credentials

theorem finalizersWithout_setFinalizers_with (resource other : Credentials) :
    (other.setFinalizers resource.finalizersWith).finalizersWithout =
      resource.finalizersWithout := by
  simp only [finalizersWithout, finalizers_setFinalizers, finalizersWith]
  split
  · rfl
  · simp

theorem finalizersWithout_setFinalizers_without (resource other : Credentials) :
    (other.setFinalizers resource.finalizersWithout).finalizersWithout =
      resource.finalizersWithout := by
  simp [finalizersWithout]

end Credentials

namespace Issuance

variable {edits : Credentials → Credentials → Prop} {start : Credentials} {state next : State}
  {task : Option Task} {finalizers : List String}

/-- A list of finalizers that a round wrote takes effect, with the answer to the write or behind
it. -/
inductive Replaced (finalizers : List String) : State → Option Task → State → Prop where
  | answered {state : State} {held copy : Credentials} {deadline : Time.Instant}
      {resume :
        Round.Answer (Round.Call.within deadline (.updateFinalizers copy finalizers)) → Task} :
      Replaced finalizers state
        (some (.ask held (Round.Call.within deadline (.updateFinalizers copy finalizers)) resume))
        (state.advance (.asked (Round.Call.within deadline (.updateFinalizers copy finalizers))
          (some (.ok ()) : Option (Except Fault Unit))))
  | landed {state : State} {task : Option Task} (late : Write.finalizers finalizers ∈ state.late) :
      Replaced finalizers state task (state.store (state.stored.setFinalizers finalizers))

theorem Replaced.stored (hreplaced : Replaced finalizers state task next) :
    next.stored = state.stored.setFinalizers finalizers := by
  cases hreplaced with
  | answered => rfl
  | landed hlate => rfl

/-- Only writes of the present round can still take effect. -/
theorem Course.late_asked (hcourse : Course edits start state task) :
    ∀ write ∈ state.late, ∃ act ∈ state.present.acts, unsettled? act = some write := by
  refine hcourse.invariant (fun state =>
    ∀ write ∈ state.late, ∃ act ∈ state.present.acts, unsettled? act = some write)
    ?_ ?_ ?_ ?_ ?_
  · intro write late
    cases late
  · intro state next task _ hknown hchange
    cases hchange with
    | lands => exact hknown
    | edited => exact hknown
  · intro state _ write late
    cases late
  · intro state task act _ hknown _ write late
    have hlater : write ∈ (unsettled? act).toList ++ state.late := by
      unfold State.hear at late
      cases hheard : written? act <;> simpa [hheard, State.store, State.note] using late
    rw [State.present_hear]
    rcases List.mem_append.mp hlater with hfresh | late
    · exact ⟨act, List.mem_cons_self, Option.mem_toList.mp hfresh⟩
    · obtain ⟨earlier, hmember, hunsettled⟩ := hknown write late
      exact ⟨earlier, List.mem_cons_of_mem _ hmember, hunsettled⟩
  · intro state outcome hknown
    exact hknown

theorem asked_of_unsettled {act : Act}
    (hunsettled : unsettled? act = some (.finalizers finalizers)) :
    ∃ copy, act.call? = some (.updateFinalizers copy finalizers) := by
  unfold unsettled? at hunsettled
  split at hunsettled
  · cases hunsettled
  · cases hunsettled
    exact ⟨_, rfl⟩
  · cases hunsettled
  · rename_i call
    cases call with
    | updateFinalizers copy list =>
        cases hunsettled
        exact ⟨copy, rfl⟩
    | _ => cases hunsettled
  · cases hunsettled

/-- A round writes what it read, with the finalizer of the controller put to it or taken from it. -/
theorem Course.custody (hcourse : Course edits start state task)
    (hreplaced : Replaced finalizers state task next) :
    ∃ stage, Custody state.present.resource stage finalizers := by
  cases hreplaced with
  | answered => exact ⟨_, (Script.keeps_ask.mp (hcourse.bound _ rfl).keeps).1⟩
  | landed hlate =>
      obtain ⟨act, hmember, hunsettled⟩ := hcourse.late_asked _ hlate
      obtain ⟨copy, hasked⟩ := asked_of_unsettled hunsettled
      exact kept_before hcourse.kept hmember hasked

theorem Custody.finalizers_eq {resource : Credentials} {stage : Stage}
    (hcustody : Custody resource stage finalizers) :
    resource.isDeleting = false ∧ finalizers = resource.finalizersWith ∨
      resource.isDeleting = true ∧ finalizers = resource.finalizersWithout := by
  cases hcustody with
  | taken hlive => exact .inl ⟨hlive, rfl⟩
  | orphaned hdeleting => exact .inr ⟨hdeleting, rfl⟩
  | released hdeleting => exact .inr ⟨hdeleting, rfl⟩

/-- The finalizers of others are those of the copy that the round read, whatever became of them
since. They are left as they were right before the write if and only if they were still those that
were read. -/
theorem finalizers_replaced (course : Course edits start state task)
    (replaced : Replaced finalizers state task next) :
    (∀ members, Credentials.ofJson? (.object members) = some state.stored →
      Credentials.ofJson? ((Json.object members).mergePatch (Cluster.finalizersPatch finalizers)) =
        some next.stored) ∧
      (if state.present.resource.isDeleting
        then next.stored.finalizers = state.present.resource.finalizersWithout
        else next.stored.finalizers = state.present.resource.finalizersWith) ∧
      (∀ name, name ≠ finalizer →
        (name ∈ next.stored.finalizers ↔ name ∈ state.present.resource.finalizers)) ∧
      (next.stored.finalizersWithout = state.stored.finalizersWithout ↔
        state.stored.finalizersWithout = state.present.resource.finalizersWithout) := by
  obtain ⟨stage, hcustody⟩ := course.custody replaced
  have hwritten := hcustody.finalizers_eq
  rw [replaced.stored]
  have hothers : (state.stored.setFinalizers finalizers).finalizersWithout =
      state.present.resource.finalizersWithout := by
    rcases hwritten with ⟨-, rfl⟩ | ⟨-, rfl⟩
    · exact Credentials.finalizersWithout_setFinalizers_with _ _
    · exact Credentials.finalizersWithout_setFinalizers_without _ _
  refine ⟨fun members hread => Cluster.Update.ofJson?_patch_finalizers finalizers hread, ?_, ?_, ?_⟩
  · rcases hwritten with ⟨hlive, rfl⟩ | ⟨hdeleting, rfl⟩
    · rw [hlive]
      rfl
    · rw [hdeleting]
      rfl
  · intro name hforeign
    have hsame : name ∈ (state.stored.setFinalizers finalizers).finalizersWithout ↔
        name ∈ state.present.resource.finalizersWithout := by rw [hothers]
    simpa only [Credentials.mem_finalizersWithout, hforeign, ne_eq, not_false_eq_true,
      and_true] using hsame
  · rw [hothers]
    exact eq_comm

/-- Others put finalizers of their own on a resource, and take them off again. -/
inductive Guards : Credentials → Credentials → Prop where
  | puts (resource : Credentials) {name : String} (foreign : name ≠ finalizer) :
      Guards resource (resource.setFinalizers (resource.finalizers ++ [name]))
  | takes (resource : Credentials) {name : String} (foreign : name ≠ finalizer) :
      Guards resource (resource.setFinalizers (resource.finalizers.filter (· != name)))

def guard : String := "other.example/guard"

def replacing? : Moment (Round.interface interface) → Option (List String)
  | .asked (.within _ (.updateFinalizers _ finalizers)) (some (.ok ())) => some finalizers
  | _ => none

theorem eq_of_replacing? {moment : Moment (Round.interface interface)}
    (h : replacing? moment = some finalizers) :
    ∃ deadline copy, moment =
        .asked (Round.Call.within deadline (.updateFinalizers copy finalizers))
      (some (.ok ()) : Option (Except Fault Unit)) := by
  unfold replacing? at h
  split at h
  · cases h
    exact ⟨_, _, rfl⟩
  · cases h

def takingUp : List (Moment (Round.interface interface)) :=
  rehearsal 1717200000 (obliging none (tokenNamed "first")) habits applicant

def looking : List (Moment (Round.interface interface)) :=
  (takingUp.dropWhile fun moment => (replacing? moment).isNone).tail

/-- The round has read the resource, and is about to write the finalizers. -/
def guarded : State :=
  looking.foldr State.advance
    ((State.initial applicant).begin.store (applicant.setFinalizers [guard]))

theorem takingUp_eq : ∃ later moment, takingUp = later ++ moment :: looking ∧
    replacing? moment = some [finalizer] := by
  have hhead : (takingUp.dropWhile fun moment => (replacing? moment).isNone).head?.bind replacing? =
      some [finalizer] := by decide +kernel
  obtain ⟨moment, hfirst, hmoment⟩ := Option.bind_eq_some_iff.mp hhead
  obtain ⟨rest, hdrop⟩ := List.head?_eq_some_iff.mp hfirst
  refine ⟨takingUp.takeWhile fun moment => (replacing? moment).isNone, moment, ?_, hmoment⟩
  rw [looking, hdrop, List.tail_cons, ← hdrop, List.takeWhile_append_dropWhile]

theorem guarded_replaces : ∃ task next, Course Guards applicant guarded task ∧
    Replaced [finalizer] guarded task next := by
  have hedited : Course Guards applicant
      ((State.initial applicant).begin.store (applicant.setFinalizers [guard]))
      (some (Round.run connector habits applicant)) :=
    (Course.initial.begins habits).changes (.edited (.puts applicant (by decide)))
  have hwhole : (Round.run connector habits applicant).Reaches takingUp _ :=
    reaches_rehearsal 1717200000 (obliging none (tokenNamed "first")) habits applicant
  obtain ⟨later, moment, hparts, hreplacing⟩ := takingUp_eq
  rw [hparts] at hwhole
  obtain ⟨task, next, hreached, hadvance⟩ := hwhole.split
  obtain ⟨deadline, copy, rfl⟩ := eq_of_replacing? hreplacing
  cases hadvance with
  | asked answer => exact ⟨_, _, hedited.reaches hreached, .answered⟩

theorem finalizers_replaced_guarded : ∃ task next, Course Guards applicant guarded task ∧
    Replaced [finalizer] guarded task next ∧
      guarded.present.resource.isDeleting = false ∧ guarded.stored.finalizers = [guard] ∧
      (∀ name, name ≠ finalizer → (name ∈ next.stored.finalizers ↔ name ∈ applicant.finalizers)) ∧
      next.stored.finalizers = [finalizer] := by
  obtain ⟨task, next, hcourse, hreplaced⟩ := guarded_replaces
  have hread : guarded.present.resource = applicant := State.resource_foldr_advance _ _
  have hstored : guarded.stored.finalizers = [guard] := by decide +kernel
  obtain ⟨-, hwritten, hforeign, -⟩ := finalizers_replaced hcourse hreplaced
  rw [hread] at hwritten hforeign
  exact ⟨task, next, hcourse, hreplaced, by rw [hread]; rfl, hstored, hforeign, hwritten⟩

/-- A finalizer that was put on the resource after the round had read it is gone. -/
theorem foreign_finalizer_lost :
    ¬ ∀ start finalizers state task next, Course Guards start state task →
      state.present.resource.isDeleting = false → Replaced finalizers state task next →
        next.stored.finalizersWithout = state.stored.finalizersWithout := by
  intro hspared
  obtain ⟨task, next, hcourse, hreplaced⟩ := guarded_replaces
  have hsame := hspared _ _ _ _ _ hcourse (by decide +kernel) hreplaced
  rw [hreplaced.stored] at hsame
  exact absurd hsame (by decide +kernel)

end Issuance

end BucketKeys
