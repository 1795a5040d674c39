import BucketKeys.Script

/-!
Surroundings answer the questions of scripts from a state of their own, which each answer may
change. A script played against surroundings runs to its end.
-/

namespace BucketKeys

structure Surroundings (I : Interface) (W : Type) where
  now : W → Time.Instant
  count : Event → W → W
  answer : (call : I.Call) → W → I.Answer call × W

namespace Script

def play {I : Interface} (surroundings : Surroundings I W) :
    Script I σ α → W → (σ × α) × W
  | done held value, world => ((held, value), world)
  | ask _ call resume, world =>
    let (answer, world) := surroundings.answer call world
    (resume answer).play surroundings world
  | clock resume, world => (resume (surroundings.now world)).play surroundings world
  | count event rest, world => rest.play surroundings (surroundings.count event world)

end Script

end BucketKeys
