import BucketKeys.InMemory.World
import BucketKeys.Service

/-!
A world in memory settles its rounds as the service does.
-/

namespace BucketKeys.InMemory

variable {S : Type} {R : Interface}

theorem retries_play (act : (call : Pass.Call R) → Act S (Pass.Answer call))
    (script : Script (Round.interface R) σ α) (world : World S) :
    (script.play (rounds act) world).2.retries = world.retries := by
  induction script generalizing world with
  | done held value => rfl
  | ask held call resume ih =>
      refine (ih _ _).trans ?_
      cases call with
      | admission => rfl
      | within deadline call =>
          change (World.performUpTo deadline (act call) world).2.retries = world.retries
          unfold World.performUpTo
          dsimp only
          split
          · rfl
          · rfl
      | recordFailure resource => rfl
  | clock resume ih => exact ih _ _
  | count event next ih => exact ih _

theorem turn_settles (act : (call : Pass.Call R) → Act S (Pass.Answer call))
    (connector : Pass.Connector R) (options : PassOptions) (resource : Credentials)
    (world : World S) :
    turn act connector options resource world =
      let ((_, outcome), after) := (Round.run connector options resource).play (rounds act) world
      let (next, events, retries) := Service.settle world.retries resource.displayName outcome
      (⟨outcome, next⟩,
        events.foldl (fun world event => world.count event) { after with retries := retries }) := by
  have hkept := retries_play act (Round.run connector options resource) world
  unfold turn Service.settle
  dsimp only
  rw [hkept]
  cases ((Round.run connector options resource).play (rounds act) world).1.2 with
  | limited delay => rfl
  | finished action => rfl
  | failed fault => rfl

end BucketKeys.InMemory
