import BucketKeys.Proofs.Round.Ending
import BucketKeys.Proofs.Script.Asks
import BucketKeys.Proofs.Service.Retries

/-!
How long the controller waits before it looks at a resource again. A pass that went well knows two
waits; a round that was refused and a failure have their own.
-/

namespace BucketKeys

theorem Time.Span.zero_lt_ofSeconds {seconds : Nat} (hpositive : 0 < seconds) :
    Span.zero < .ofSeconds seconds :=
  Nat.mul_pos hpositive (by decide)

namespace Pass

variable {R : Interface} {options : PassOptions}

def Scheduled (options : PassOptions) : Action → Prop
  | .requeue after => after = options.pollInterval ∨ after = options.shortWait
  | .awaitChange => True

def Schedules (options : PassOptions) (work : Step R Action) : Prop :=
  ∀ held, (work held).Asks (fun _ _ => True)
    fun _ result => ∀ action, result = .ok action → Scheduled options action

theorem schedules_pure {action : Action} (hscheduled : Scheduled options action) :
    Schedules options (pure action : Step R Action) := by
  rintro held _ ⟨⟩
  exact hscheduled

theorem schedules_fail (fault : Fault) : Schedules options (Work.fail fault : Step R Action) := by
  rintro held _ ⟨⟩

/-- The last part of the work decides. -/
theorem schedules_then {work : Step R α} {next : α → Step R Action}
    (hfollows : ∀ value, Schedules options (next value)) : Schedules options (work >>= next) :=
  fun held => Work.asks_andThen (Script.asks_anything (work held))
    (fun held value _ => hfollows value held) (by rintro _ _ _ _ ⟨⟩)

theorem finish_schedules {reason : String} {after : Time.Span}
    (hknown : after = options.pollInterval ∨ after = options.shortWait) :
    Schedules options (finish reason after : Step R Action) :=
  schedules_then fun _ => schedules_then fun _ => schedules_then fun _ => schedules_pure hknown

theorem create_schedules (client : Client R) : Schedules options (create client options) := by
  refine schedules_then fun now => schedules_then fun _ => schedules_then fun _ =>
    schedules_then fun _ => schedules_then fun created => ?_
  cases created with
  | error fault =>
      exact schedules_then fun failed => schedules_then fun _ => schedules_then fun _ =>
        schedules_fail fault
  | ok details =>
      exact schedules_then fun _ => schedules_then fun succeeded => schedules_then fun _ =>
        schedules_then fun resource => schedules_then fun _ => schedules_then fun _ =>
          finish_schedules (.inr rfl)

theorem release_schedules : Schedules options (release : Step R Action) := by
  refine schedules_then fun resource => ?_
  cases resource.hasFinalizer with
  | true => exact schedules_then fun _ => schedules_then fun _ => schedules_pure trivial
  | false => exact schedules_pure trivial

theorem delete_schedules (client : Client R) : Schedules options (delete client options) :=
  schedules_then fun _ => schedules_then fun _ => schedules_then fun _ =>
    finish_schedules (.inr rfl)

theorem maintain_schedules (client : Client R) (observation : Observation) :
    Schedules options (maintain client options observation) := by
  refine schedules_then fun _ => ?_
  cases observation.upToDate with
  | true => exact finish_schedules (.inl rfl)
  | false => exact schedules_then fun _ => schedules_then fun _ => finish_schedules (.inl rfl)

theorem drive_schedules (client : Client R) : Schedules options (drive client options) := by
  refine schedules_then fun observation => schedules_then fun resource => ?_
  cases resource.isDeleting with
  | true =>
      cases observation.resourceExists with
      | true => exact delete_schedules client
      | false => exact release_schedules
  | false =>
      refine schedules_then fun _ => ?_
      cases observation.resourceExists with
      | true => exact maintain_schedules client observation
      | false => exact create_schedules client

theorem connected_schedules (connector : Connector R) :
    Schedules options (connected connector options) := by
  refine schedules_then fun client held => ?_
  have hdriven : Script.Asks (fun _ _ => True)
      (fun _ outcome => ∀ result, outcome = .ok result →
        ∀ action, result = .ok action → Scheduled options action)
      ((drive client options).attempt held) := by
    refine Script.asks_bind.mpr ((drive_schedules client held).imp ?_)
    rintro held result hscheduled _ ⟨⟩
    exact hscheduled
  refine Work.asks_andThen hdriven ?_ (by rintro _ _ _ _ ⟨⟩)
  intro held outcome hscheduled
  refine schedules_then (fun _ held => ?_) held
  exact Work.asks_ofExcept.mpr (hscheduled outcome rfl)

theorem run_schedules (connector : Connector R) : Schedules options (run connector options) := by
  refine schedules_then fun resource => ?_
  split
  · exact schedules_fail _
  · split
    · exact schedules_then fun _ => release_schedules
    · split
      · exact schedules_fail _
      · exact connected_schedules connector

end Pass

namespace Round

variable {R : Interface} {connector : Pass.Connector R} {options : PassOptions}
  {resource held : Credentials} {moments : List (Moment (interface R))}

theorem scheduled_of_reaches {action : Action}
    (hreached : (run connector options resource).Reaches moments
      (some (.done held (.finished action)))) : Pass.Scheduled options action := by
  cases ending_of_reaches hreached with
  | passed hreached hconcluded =>
      cases hconcluded
      rcases upTo_ending hreached with hended | ⟨hlate, -⟩
      · exact ((Pass.run_schedules connector resource).reaches hended).2 _ rfl action rfl
      · cases hlate

theorem limited_of_reaches {delay : Time.Span}
    (hreached : (run connector options resource).Reaches moments
      (some (.done held (.limited delay)))) : delay ≠ .zero := by
  cases ending_of_reaches hreached with
  | limited hpositive => exact hpositive
  | passed hreached hconcluded => cases hconcluded

end Round

namespace Service

variable {R : Interface} {connector : Pass.Connector R} {options : PassOptions}

def Episode.wait? : Episode → Option Time.Span
  | ended _ (.limited delay) => some delay
  | ended _ (.finished (.requeue after)) => some after
  | handled _ _ (.requeue after) => some after
  | _ => none

/-- No wait of the controller is empty, if none of its settings is. -/
theorem Timeline.wait_pos {episodes : List Episode} {retries : Retries}
    (htimeline : Timeline connector options episodes retries)
    (hpoll : Time.Span.zero < options.pollInterval) (hshort : Time.Span.zero < options.shortWait)
    {episode : Episode} (hmember : episode ∈ episodes) {wait : Time.Span}
    (hwaits : episode.wait? = some wait) : .zero < wait := by
  induction htimeline with
  | start => cases hmember
  | @ends episodes retries resource held outcome moments htimeline hreached ih =>
      rcases List.mem_cons.mp hmember with rfl | hearlier
      · cases outcome with
        | limited delay =>
            cases hwaits
            -- with nothing to wait for, the limiter would have let the pass begin
            exact Nat.pos_of_ne_zero fun hzero =>
              Round.limited_of_reaches hreached (congrArg Time.Span.mk hzero)
        | finished action =>
            cases action with
            | awaitChange => cases hwaits
            | requeue after =>
                cases hwaits
                rcases Round.scheduled_of_reaches hreached with rfl | rfl
                · exact hpoll
                · exact hshort
        | failed fault => cases hwaits
      · exact ih hearlier
  | @handles episodes retries resource fault htimeline failed ih =>
      rcases List.mem_cons.mp hmember with rfl | hearlier
      · cases hfatal : fault.isFatal with
        | true =>
            rw [Retries.retry_of_fatal _ _ hfatal] at hwaits
            cases hwaits
        | false =>
            rw [Retries.retry_of_mendable _ _ hfatal, htimeline.backoff,
              Retry.toNat_delay_iterate] at hwaits
            cases hwaits
            -- the delays are the Fibonacci numbers behind the first, up to the longest delay
            exact Time.Span.zero_lt_ofSeconds
                (lt_min (by decide) (Nat.fib_pos.mpr (Nat.succ_pos _)))
      · exact ih hearlier

end Service

end BucketKeys
