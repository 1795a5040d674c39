import BucketKeys.Proofs.Round.Ending
import BucketKeys.Proofs.Script.Asks
import BucketKeys.Proofs.Script.Determinism

/-!
Parts of a pass under its deadline, and a round cut at the end of its pass.
-/

namespace BucketKeys.Round

open Time (Instant Span)

variable {R : Interface} {deadline : Instant} {late : Fault}

/-- The deadline of some work is that of what follows on it, which is left out if the work fails or
is late. -/
theorem upTo_andThen (deadline : Instant) (late : Fault) (work : Work (Pass.interface R) σ α)
    (next : α → Work (Pass.interface R) σ β) (held : σ) :
    upTo deadline late ((work >>= next) held) =
      (upTo deadline late (work held)).bind fun held result =>
        match result with
        | .ok value => upTo deadline late (next value held)
        | .error fault => .done held (.error fault) := by
  change upTo deadline late ((work held).bind _) = _
  induction work held with
  | done held result => cases result <;> rfl
  | ask held call resume ih =>
      change upTo deadline late (.ask held call fun answer => (resume answer).bind _) =
        (upTo deadline late (.ask held call resume)).bind _
      rw [upTo, upTo]
      refine congrArg (Script.ask held _) (funext fun answer => ?_)
      cases (answer : Option (Pass.Answer call)) with
      | some answer => exact ih answer
      | none => rfl
  | clock resume ih => exact congrArg Script.clock (funext ih)
  | count event next ih => exact congrArg (Script.count event) ih

theorem asks_upTo {allowed : σ → Pass.Call R → Prop} {ends : σ → Except Fault α → Prop}
    {script : Script (Pass.interface R) σ (Except Fault α)} (hasks : script.Asks allowed ends) :
    (upTo deadline late script).Asks
      (fun held call => ∃ inner, call = Call.within deadline inner ∧ allowed held inner)
      fun held result => ends held result ∨ result = .error late ∧ ∃ inner, allowed held inner := by
  induction script with
  | done held result => exact .inl hasks
  | ask held call resume ih =>
      rw [upTo]
      refine ⟨⟨call, rfl, hasks.1⟩, fun answer => ?_⟩
      cases (answer : Option (Pass.Answer call)) with
      | some answer => exact ih answer (hasks.2 answer)
      | none => exact .inr ⟨rfl, call, hasks.1⟩
  | clock resume ih => exact fun now => ih now (hasks now)
  | count event next ih => exact ih hasks

theorem reaches_clocked {connector : Pass.Connector R} {options : PassOptions}
    {resource held : Credentials} {result : Except Fault Action} {start : Instant}
    {pass : List (Moment (interface R))}
    (hpassed : (upTo (start.later options.timeout) (.timeout options.timeout)
      (Pass.run connector options resource)).Reaches pass (some (.done held result)))
    (stop : Instant) :
    (run connector options resource).Reaches (clocked start stop pass)
      (some (conclude held result)) := by
  have hopened : (run connector options resource).Reaches
      [.read start, .asked Call.admission Span.zero, .counted .passStarted] _ :=
    ((Script.Reaches.here.step .counted).step (.asked _)).step (.read start)
  exact ((hopened.append (hpassed.bind _)).step (.read stop)).step .counted

theorem concluded_of_reaches {connector : Pass.Connector R} {options : PassOptions}
    {resource held copy : Credentials} {result : Except Fault Action} {outcome : Outcome}
    {start stop : Instant} {pass conclusion : List (Moment (interface R))}
    (hpassed : (upTo (start.later options.timeout) (.timeout options.timeout)
      (Pass.run connector options resource)).Reaches pass (some (.done held result)))
    (hreached : (run connector options resource).Reaches (conclusion ++ clocked start stop pass)
      (some (.done copy outcome))) : Concluded held result conclusion copy outcome := by
  have hleft := (reaches_clocked hpassed stop).cut hreached
  obtain ⟨_, hsame, hconcluded⟩ := (conclude_yields held result []).done hleft fun _ _ => trivial
  rw [Ledger.total_whole, List.append_nil, List.append_nil] at hsame
  rw [hsame]
  exact hconcluded

end BucketKeys.Round
