import BucketKeys.Proofs.Script.Protocol
import BucketKeys.Round

/-!
Rounds keep to a protocol for passes: what a round puts before its deadline the pass asks, and what
the deadline cuts off is lost to it.
-/

namespace BucketKeys.Round

variable {R : Interface} {S : Type}

/-- What a moment of a round is to its pass. The record of a failure counts as the last write of
the pass. -/
def told : Moment (interface R) → Option (Moment (Pass.interface R))
  | .asked .admission _ => none
  | .asked (.within _ call) answer =>
      match (answer : Option (Pass.Answer call)) with
      | some answer => some (.asked call answer)
      | none => some (.lost call)
  | .asked (.recordFailure resource) answer => some (.asked (.updateStatus resource) answer)
  | .lost .admission => none
  | .lost (.within _ call) => some (.lost call)
  | .lost (.recordFailure resource) => some (.lost (.updateStatus resource))
  | .read now => some (.read now)
  | .counted event => some (.counted event)

def answered (protocol : Protocol (Pass.interface R) S) (stage : S) :
    (call : Call R) → Answer call → S
  | .admission, _ => stage
  | .within _ call, answer =>
      match (answer : Option (Pass.Answer call)) with
      | some answer => protocol.answered stage call answer
      | none => protocol.cutOff
  | .recordFailure resource, answer => protocol.answered stage (.updateStatus resource) answer

def around (protocol : Protocol (Pass.interface R) S) : Protocol (interface R) S where
  permits stage
    | .admission => True
    | .within _ call => protocol.permits stage call
    | .recordFailure resource => protocol.permits stage (.updateStatus resource)
  answered := answered protocol
  read := protocol.read
  cutOff := protocol.cutOff

theorem keeps_told {protocol : Protocol (Pass.interface R) S} {ends : S → σ → α → Prop}
    {script : Script (interface R) σ α} {stage : S}
    (hkeeps : script.Keeps (around protocol) ends stage) {moment : Moment (interface R)}
    {rest : Option (Script (interface R) σ α)} (hadvance : script.Advances moment rest) :
    protocol.Kept stage (told moment).toList ∧ ∀ next, rest = some next →
      next.Keeps (around protocol) ends (protocol.stageAfter stage (told moment).toList) := by
  obtain ⟨hpermitted, hfollows⟩ := hkeeps.advances hadvance
  cases hadvance with
  | @asked held call resume answer =>
      have hallowed := hpermitted call rfl
      cases call with
      | admission => exact ⟨trivial, hfollows⟩
      | within deadline call =>
          cases (answer : Option (Pass.Answer call)) with
          | none =>
              refine ⟨⟨trivial, ?_⟩, hfollows⟩
              intro _ hsame
              cases hsame
              exact hallowed
          | some answer =>
              refine ⟨⟨trivial, ?_⟩, hfollows⟩
              intro _ hsame
              cases hsame
              exact hallowed
      | recordFailure resource =>
          refine ⟨⟨trivial, ?_⟩, hfollows⟩
          intro _ hsame
          cases hsame
          exact hallowed
  | @lost held call resume =>
      have hallowed := hpermitted call rfl
      cases call with
      | admission => exact ⟨trivial, by rintro _ ⟨⟩⟩
      | within deadline call =>
          refine ⟨⟨trivial, ?_⟩, hfollows⟩
          intro _ hsame
          cases hsame
          exact hallowed
      | recordFailure resource =>
          refine ⟨⟨trivial, ?_⟩, hfollows⟩
          intro _ hsame
          cases hsame
          exact hallowed
  | read now => exact ⟨⟨trivial, by rintro _ ⟨⟩⟩, hfollows⟩
  | counted => exact ⟨⟨trivial, by rintro _ ⟨⟩⟩, hfollows⟩

/-- The pass in a round that keeps to a protocol around passes keeps to that protocol. -/
theorem reaches_told {protocol : Protocol (Pass.interface R) S} {ends : S → σ → α → Prop}
    {script : Script (interface R) σ α} {start : S}
    (hkeeps : script.Keeps (around protocol) ends start) {moments : List (Moment (interface R))}
    {rest : Option (Script (interface R) σ α)} (hreached : script.Reaches moments rest) :
    protocol.Kept start (moments.filterMap told) ∧ ∀ next, rest = some next →
      next.Keeps (around protocol) ends
        (protocol.stageAfter start (moments.filterMap told)) := by
  induction hreached with
  | here =>
      refine ⟨trivial, ?_⟩
      intro next hsame
      cases hsame
      exact hkeeps
  | @step before moment present rest hreached hadvance ih =>
      obtain ⟨hkept, hcontinues⟩ := ih
      obtain ⟨hpermitted, hfollows⟩ := keeps_told (hcontinues _ rfl) hadvance
      cases hheard : told moment with
      | none =>
          simp only [List.filterMap_cons, hheard]
          rw [hheard] at hfollows
          exact ⟨hkept, hfollows⟩
      | some last =>
          simp only [List.filterMap_cons, hheard]
          rw [hheard] at hpermitted hfollows
          exact ⟨⟨hkept, hpermitted.2⟩, hfollows⟩

theorem upTo_keeps {protocol : Protocol (Pass.interface R) S}
    {ends : S → σ → Except Fault α → Prop} (deadline : Time.Instant) (late : Fault)
    (hfailing : ∀ stage held, ends stage held (.error late))
    {script : Script (Pass.interface R) σ (Except Fault α)} {stage : S}
    (hkeeps : script.Keeps protocol ends stage) :
    (upTo deadline late script).Keeps (around protocol) ends stage := by
  induction script generalizing stage with
  | done held result => exact hkeeps
  | ask held call resume ih =>
      rw [upTo]
      refine Script.keeps_ask.mpr ⟨hkeeps.1, fun answer => ?_⟩
      cases (answer : Option (Pass.Answer call)) with
      | some answer => exact ih answer (hkeeps.2 answer)
      | none => exact hfailing protocol.cutOff held
  | clock resume ih => exact fun now => ih now (hkeeps now)
  | count event rest ih => exact ih hkeeps

end BucketKeys.Round
