import BucketKeys.Proofs.Round.Protocol
import BucketKeys.Proofs.Script.Regime

/-!
Rounds in surroundings that let every pass begin and answer it in time.
-/

namespace BucketKeys.Round

variable {R : Interface} {G : Type}

/-- What is a regime for passes is one for rounds that the rate limiter lets begin at once. -/
def admitting (regime : Regime (Pass.interface R) G) : Regime (interface R) G where
  allows state
    | .asked .admission delay => delay = Time.Span.zero
    | moment => ∀ act, told moment = some act → regime.allows state act
  after moment state := (told moment).elim state fun act => regime.after act state

variable {regime : Regime (Pass.interface R) G}

theorem under_upTo {deadline : Time.Instant} {late : Fault}
    (hattentive : ∀ state call, ¬ regime.allows state (.lost call))
    {script : Script (Pass.interface R) σ (Except Fault α)} {ends : G → σ → Except Fault α → Prop}
    {state : G} (hunder : script.Under regime ends state) :
    (upTo deadline late script).Under (admitting regime) ends state := by
  induction script generalizing state with
  | done held result => exact hunder
  | ask held call resume ih =>
      obtain ⟨⟨possible, hallowed⟩, hfollows⟩ := hunder
      rw [upTo]
      refine ⟨⟨some possible, ?_⟩, fun answer hallowed => ?_⟩
      · rintro _ ⟨⟩
        exact hallowed
      · cases (answer : Option (Pass.Answer call)) with
        | some answer => exact ih answer (hfollows answer (hallowed _ rfl))
        | none => exact absurd (hallowed _ rfl) (hattentive state call)
  | clock resume ih =>
      obtain ⟨⟨possible, hallowed⟩, hfollows⟩ := hunder
      refine ⟨⟨possible, ?_⟩, fun now hallowed => ih now (hfollows now (hallowed _ rfl))⟩
      rintro _ ⟨⟩
      exact hallowed
  | count event next ih =>
      refine ⟨?_, ih hunder.2⟩
      rintro _ ⟨⟩
      exact hunder.1

end BucketKeys.Round
