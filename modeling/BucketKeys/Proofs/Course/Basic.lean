import BucketKeys.Proofs.Course.Store
import BucketKeys.Proofs.Issuance.Conformance
import BucketKeys.Proofs.Issuance.Turns

/-!
The course of rounds over one stored resource. Each round starts from the resource as it is stored
at that time. A write that failed or was cut off may take effect until the next round begins, and
others may change the resource at any time, within the bounds set for them.
-/

namespace BucketKeys.Issuance

structure Chapter where
  resource : Credentials
  acts : List Act
  /-- What the round ended with, unless it was left before its end. -/
  outcome : Option Round.Outcome

namespace Chapter

def stage (chapter : Chapter) : Stage :=
  (protocol chapter.resource).stageAfter .start chapter.acts

end Chapter

structure State where
  stored : Credentials
  /-- The external names that the stored resource has had. -/
  names : List String
  /-- The writes of the present round that may still take effect. -/
  late : List Write
  present : Chapter
  earlier : List Chapter

namespace State

def initial (resource : Credentials) : State where
  stored := resource
  names := resource.externalName?.toList
  late := []
  present := ⟨resource, [], none⟩
  earlier := []

def chapters (state : State) : List Chapter :=
  state.present :: state.earlier

def history (state : State) : List Act :=
  state.chapters.flatMap (·.acts)

def store (resource : Credentials) (state : State) : State :=
  { state with stored := resource, names := resource.externalName?.toList ++ state.names }

def note (act : Act) (state : State) : State :=
  { state with
    late := (unsettled? act).toList ++ state.late
    present := { state.present with acts := act :: state.present.acts } }

def hear (act : Act) (state : State) : State :=
  match written? act with
  | some write => (state.note act).store (write.apply state.stored)
  | none => state.note act

def advance (moment : Moment (Round.interface interface)) (state : State) : State :=
  match Round.told moment with
  | some act => state.hear act
  | none => state

/-- A new round begins, and what has not taken effect by then never will. -/
def begin (state : State) : State :=
  { state with
    late := []
    present := ⟨state.stored, [], none⟩
    earlier := state.chapters }

def conclude (outcome : Round.Outcome) (state : State) : State :=
  { state with present := { state.present with outcome := some outcome } }

end State

variable {edits : Credentials → Credentials → Prop} {start : Credentials}

inductive Change (edits : Credentials → Credentials → Prop) : State → State → Prop where
  | lands {state : State} {write : Write} (late : write ∈ state.late) :
      Change edits state (state.store (write.apply state.stored))
  | edited {state : State} {resource : Credentials} (edit : edits state.stored resource) :
      Change edits state (state.store resource)

abbrev Task := Script (Round.interface interface) Credentials Round.Outcome

/-- The states of a course that begins with the resource, and what is then left of the present
round. Others change the resource as `edits` says. -/
inductive Course (edits : Credentials → Credentials → Prop) (start : Credentials) :
    State → Option Task → Prop where
  | initial : Course edits start (.initial start) none
  | changes {state next : State} {task : Option Task} (course : Course edits start state task)
      (change : Change edits state next) : Course edits start next task
  | begins {state : State} {task : Option Task} (course : Course edits start state task)
      (options : PassOptions) :
      Course edits start state.begin (some (Round.run connector options state.stored))
  | advances {state : State} {task : Task} {rest : Option Task}
      {moment : Moment (Round.interface interface)}
      (course : Course edits start state (some task)) (advance : task.Advances moment rest) :
      Course edits start (state.advance moment) rest
  | ends {state : State} {held : Credentials} {outcome : Round.Outcome}
      (course : Course edits start state (some (.done held outcome))) :
      Course edits start (state.conclude outcome) none

structure Chapter.Lawful (chapter : Chapter) : Prop where
  kept : (protocol chapter.resource).Kept .start chapter.acts
  complete : ∀ action, chapter.outcome = some (.finished action) →
    chapter.stage.Complete chapter.resource

namespace State

variable {state : State}

@[simp] theorem history_note (act : Act) : (state.note act).history = act :: state.history := rfl

@[simp] theorem history_hear (act : Act) : (state.hear act).history = act :: state.history := by
  unfold hear
  cases written? act <;> rfl

theorem mem_filterMap_history {read : Act → Option β} {value : β} :
    value ∈ state.history.filterMap read ↔
      ∃ chapter ∈ state.chapters, value ∈ chapter.acts.filterMap read := by
  simp only [history, List.filterMap_flatMap, List.mem_flatMap]

theorem present_hear (act : Act) :
    (state.hear act).present = { state.present with acts := act :: state.present.acts } := by
  unfold hear
  cases written? act <;> rfl

theorem earlier_hear (act : Act) : (state.hear act).earlier = state.earlier := by
  unfold hear
  cases written? act <;> rfl

theorem stage_hear (act : Act) :
    (state.hear act).present.stage =
      (protocol state.present.resource).next state.present.stage act := by
  rw [present_hear]
  rfl

end State

structure Bound (state : State) (task : Task) : Prop where
  keeps : task.Keeps (Round.around (protocol state.present.resource))
    (fun stage _ outcome => ∀ action, outcome = .finished action →
      stage.Complete state.present.resource) state.present.stage
  running : state.present.outcome = none

theorem Bound.advance {state : State} {task : Task} {rest : Option Task}
    {moment : Moment (Round.interface interface)} (hbound : Bound state task)
    (hadvance : task.Advances moment rest) :
    (∀ next, rest = some next → Bound (state.advance moment) next) ∧
      (state.advance moment = state ∨ ∃ act, state.advance moment = state.hear act ∧
        ∀ call, act.call? = some call →
          (protocol state.present.resource).permits state.present.stage call) := by
  obtain ⟨hkept, hfollows⟩ := Round.keeps_told hbound.keeps hadvance
  unfold State.advance
  cases hheard : Round.told moment with
  | none =>
      rw [hheard] at hfollows
      exact ⟨fun next hleft => ⟨hfollows next hleft, hbound.running⟩, .inl rfl⟩
  | some act =>
      rw [hheard] at hkept hfollows
      refine ⟨fun next hleft => ⟨?_, ?_⟩, .inr ⟨act, rfl, hkept.2⟩⟩
      · rw [State.stage_hear, State.present_hear]
        exact hfollows next hleft
      · rw [State.present_hear]
        exact hbound.running

theorem Course.bound {state : State} {task : Option Task}
    (hcourse : Course edits start state task) :
    ∀ script, task = some script → Bound state script := by
  induction hcourse with
  | initial => rintro script ⟨⟩
  | changes hcourse hchange ih =>
      intro script hleft
      cases hchange with
      | lands hlate => exact ⟨(ih script hleft).keeps, (ih script hleft).running⟩
      | edited hedit => exact ⟨(ih script hleft).keeps, (ih script hleft).running⟩
  | begins hcourse options ih =>
      intro script hsame
      cases hsame
      exact ⟨round_keeps _ options, rfl⟩
  | advances hcourse hadvance ih => exact ((ih _ rfl).advance hadvance).1
  | ends hcourse ih => rintro script ⟨⟩

/-- A round that is left keeps to its protocol, and one that ends comes to a complete stage. -/
theorem Course.lawful {state : State} {task : Option Task}
    (hcourse : Course edits start state task) : ∀ chapter ∈ state.chapters, chapter.Lawful := by
  induction hcourse with
  | initial =>
      intro chapter hmember
      rw [List.mem_singleton.mp hmember]
      exact ⟨trivial, by rintro action ⟨⟩⟩
  | changes hcourse hchange ih =>
      cases hchange with
      | lands hlate => exact ih
      | edited hedit => exact ih
  | begins hcourse options ih =>
      intro chapter hmember
      rcases List.mem_cons.mp hmember with rfl | hmember
      · exact ⟨trivial, by rintro action ⟨⟩⟩
      · exact ih chapter hmember
  | @advances state task rest moment hcourse hadvance ih =>
      have hlawful := ih state.present List.mem_cons_self
      have hbound := hcourse.bound task rfl
      -- What the pass does not hear of leaves all rounds as they are.
      rcases (hbound.advance hadvance).2 with hsame | ⟨act, hsame, hpermitted⟩
      · rw [hsame]
        exact ih
      · rw [hsame]
        intro chapter hmember
        rw [State.chapters, State.present_hear, State.earlier_hear] at hmember
        rcases List.mem_cons.mp hmember with rfl | hmember
        · refine ⟨⟨hlawful.kept, hpermitted⟩, ?_⟩
          rw [hbound.running]
          intro action hsame
          cases hsame
        · exact ih chapter (List.mem_cons_of_mem _ hmember)
  | @ends state held outcome hcourse ih =>
      intro chapter hmember
      rcases List.mem_cons.mp hmember with rfl | hmember
      · refine ⟨(ih state.present List.mem_cons_self).kept, ?_⟩
        intro action hsame
        cases hsame
        exact (hcourse.bound _ rfl).keeps action rfl
      · exact ih chapter (List.mem_cons_of_mem _ hmember)

theorem Course.kept {state : State} {task : Option Task} (hcourse : Course edits start state task) :
    (protocol state.present.resource).Kept .start state.present.acts :=
  (hcourse.lawful state.present List.mem_cons_self).kept

/-- What holds of the first state, and is kept by changes from outside, by the beginning and the end
of rounds, and by each turn of a pass, holds of every state of a course. -/
theorem Course.invariant (Holds : State → Prop) {state : State} {task : Option Task}
    (hcourse : Course edits start state task) (initial : Holds (.initial start))
    (hchange : ∀ {state next task}, Course edits start state task → Holds state →
      Change edits state next → Holds next)
    (begins : ∀ {state}, Holds state → Holds state.begin)
    (hturn : ∀ {state task act}, Course edits start state task → Holds state →
      Turn state.present.resource state.present.stage act (state.hear act).present.stage →
        Holds (state.hear act))
    (ends : ∀ {state} outcome, Holds state → Holds (state.conclude outcome)) : Holds state := by
  induction hcourse with
  | initial => exact initial
  | changes hcourse hmoved ih => exact hchange hcourse ih hmoved
  | begins hcourse options ih => exact begins ih
  | @advances state task rest moment hcourse hadvance ih =>
      rcases ((hcourse.bound task rfl).advance hadvance).2 with hsame | ⟨act, hsame, hpermitted⟩
      · rw [hsame]
        exact ih
      · rw [hsame]
        refine hturn hcourse ih ?_
        rw [State.stage_hear]
        exact turn_of_permitted hpermitted
  | ends hcourse ih => exact ends _ ih

end BucketKeys.Issuance
