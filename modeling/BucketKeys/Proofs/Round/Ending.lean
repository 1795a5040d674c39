import BucketKeys.Proofs.Round.Protocol
import BucketKeys.Proofs.Script.Ledger

/-!
All the ways in which a round comes to its end, with all that happened until then.
-/

namespace BucketKeys.Round

open Time (Instant Span)

variable {R : Interface}

/-- A pass under a deadline ends as it does without one, or it is given up during a question. -/
theorem upTo_ending {deadline : Instant} {late : Fault}
    {script : Script (Pass.interface R) σ (Except Fault α)}
    {moments : List (Moment (interface R))} {held : σ} {result : Except Fault α}
    (hreached : (upTo deadline late script).Reaches moments (some (.done held result))) :
    script.Reaches (moments.filterMap told) (some (.done held result)) ∨
      (result = .error late ∧ ∃ call earlier resume,
        moments.filterMap told = .lost call :: earlier ∧
          script.Reaches earlier (some (.ask held call resume))) := by
  have hrest {present : Script (Pass.interface R) σ (Except Fault α)}
      {before : List (Moment (interface R))}
      (hreached : script.Reaches (before.filterMap told) (some present)) :
      (upTo deadline late present).Yields (.whole fun _ => True) (fun moments held result =>
        script.Reaches (moments.filterMap told) (some (.done held result)) ∨
          (result = .error late ∧ ∃ call earlier resume,
            moments.filterMap told = .lost call :: earlier ∧
              script.Reaches earlier (some (.ask held call resume)))) before := by
    induction present generalizing before with
    | done held result => exact .inl hreached
    | ask held call resume ih =>
        rw [upTo]
        intro answer _
        cases (answer : Option (Pass.Answer call)) with
        | some answer =>
            have hfurther := hreached.step (Script.Advances.asked (I := Pass.interface R) answer)
            exact ih answer hfurther
        | none => exact .inr ⟨rfl, call, _, resume, rfl, hreached⟩
    | clock resume ih => exact fun now _ => ih now (hreached.step (.read now))
    | count event next ih => exact ih (hreached.step .counted)
  have hstart : script.Reaches (([] : List (Moment (interface R))).filterMap told) (some script) :=
      .here
  have hended := (hrest hstart).done hreached fun _ _ => trivial
  simpa using hended

inductive Concluded (held : Credentials) :
    Except Fault Action → List (Moment (interface R)) → Credentials → Outcome → Prop where
  | finished (action : Action) : Concluded held (.ok action) [] held (.finished action)
  | fatal {fault : Fault} (fatal : fault.isFatal = true) :
      Concluded held (.error fault) [.counted (.passFailed fault.label)] held (.failed fault)
  | recorded {fault : Fault} (mendable : fault.isFatal = false) (now : Instant)
      (answer : Except Fault Unit) :
      Concluded held (.error fault)
        [.asked (Call.recordFailure
            (held.setCondition (Condition.reconcileError fault.message now))) answer,
          .read now, .counted (.passFailed fault.label)]
        (held.setCondition (Condition.reconcileError fault.message now)) (.failed fault)

def opening (start : Instant) : List (Moment (interface R)) :=
  [.read start, .asked Call.admission Span.zero, .counted .passStarted]

def clocked (start stop : Instant) (pass : List (Moment (interface R))) :
    List (Moment (interface R)) :=
  .counted (.passTook (start.elapsed stop)) :: .read stop :: (pass ++ opening start)

theorem told_clocked (start stop : Instant) (pass : List (Moment (interface R))) :
    (clocked start stop pass).filterMap told =
      .counted (.passTook (start.elapsed stop)) :: .read stop ::
        (pass.filterMap told ++ [.read start, .counted .passStarted]) := by
  have hopened : (opening start : List (Moment (interface R))).filterMap told =
      [.read start, .counted .passStarted] := rfl
  simp only [clocked, List.filterMap_cons, List.filterMap_append, told, hopened]

inductive Ending (connector : Pass.Connector R) (options : PassOptions) (resource : Credentials) :
    List (Moment (interface R)) → Credentials → Outcome → Prop where
  | limited {delay : Span} (positive : delay ≠ .zero) :
      Ending connector options resource
        [.counted (.requeued "rate-limited"), .counted .rateLimited,
          .asked Call.admission delay, .counted .passStarted]
        resource (.limited delay)
  | passed {start stop : Instant} {pass conclusion : List (Moment (interface R))}
      {held copy : Credentials} {result : Except Fault Action} {outcome : Outcome}
      (reached : (upTo (start.later options.timeout) (.timeout options.timeout)
        (Pass.run connector options resource)).Reaches pass (some (.done held result)))
      (concluded : Concluded held result conclusion copy outcome) :
      Ending connector options resource
        (conclusion ++ clocked start stop pass) copy outcome

theorem conclude_yields (held : Credentials) (result : Except Fault Action)
    (before : List (Moment (interface R))) :
    (conclude held result).Yields (.whole fun _ => True) (fun moments copy outcome =>
      ∃ conclusion, moments = conclusion ++ before ∧
        Concluded held result conclusion copy outcome) before := by
  cases result with
  | ok action => exact ⟨[], rfl, .finished action⟩
  | error fault =>
      cases hfatal : fault.isFatal with
      | true =>
          simp only [conclude, hfatal, if_true]
          exact ⟨_, rfl, .fatal hfatal⟩
      | false =>
          simp only [conclude, hfatal, Bool.false_eq_true, if_false]
          exact fun now _ answer _ => ⟨_, rfl, .recorded hfatal now answer⟩

theorem ending_of_reaches {connector : Pass.Connector R} {options : PassOptions}
    {resource held : Credentials} {outcome : Outcome} {moments : List (Moment (interface R))}
    (hreached : (run connector options resource).Reaches moments (some (.done held outcome))) :
    Ending connector options resource moments held outcome := by
  have hyields : (run connector options resource).Yields (.whole fun _ => True)
      (Ending connector options resource) [] := by
    intro (delay : Span) _
    by_cases hfree : delay = .zero
    · simp only [if_pos hfree]
      subst hfree
      intro start _
      refine (Script.yields_bind _ _ _).mpr ?_
      refine (Script.yields_rest .here (opening start)).imp ?_
      rintro before held result ⟨pass, rfl, hreached⟩ stop -
      refine (conclude_yields held result _).imp ?_
      rintro moments copy outcome ⟨conclusion, rfl, hconcluded⟩
      exact .passed hreached hconcluded
    · simp only [if_neg hfree]
      exact .limited hfree
  simpa using hyields.done hreached fun _ _ => trivial

end BucketKeys.Round
