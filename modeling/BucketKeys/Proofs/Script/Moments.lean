import BucketKeys.Surroundings

/-!
A script as a system of steps. Each step is a moment of the exchange with the surroundings; a script
may be left at any moment, and it ends without hearing the answer to a question that is lost.
-/

namespace BucketKeys

inductive Moment (I : Interface) where
  | asked (call : I.Call) (answer : I.Answer call)
  /-- A question that was put and may have been carried out, but was not answered. -/
  | lost (call : I.Call)
  | read (now : Time.Instant)
  | counted (event : Event)

namespace Moment

def call? : Moment I → Option I.Call
  | asked call _ => some call
  | lost call => some call
  | read _ => none
  | counted _ => none

end Moment

namespace Script

/-- One step, and what is left of the script after it. -/
inductive Advances {I : Interface} {σ α : Type} :
    Script I σ α → Moment I → Option (Script I σ α) → Prop where
  | asked {held : σ} {call : I.Call} {resume : I.Answer call → Script I σ α}
      (answer : I.Answer call) :
      Advances (.ask held call resume) (.asked call answer) (some (resume answer))
  | lost {held : σ} {call : I.Call} {resume : I.Answer call → Script I σ α} :
      Advances (.ask held call resume) (.lost call) none
  | read {resume : Time.Instant → Script I σ α} (now : Time.Instant) :
      Advances (.clock resume) (.read now) (some (resume now))
  | counted {event : Event} {next : Script I σ α} :
      Advances (.count event next) (.counted event) (some next)

/-- What may be left of a script after some moments, the last of them first. -/
inductive Reaches (script : Script I σ α) : List (Moment I) → Option (Script I σ α) → Prop where
  | here : Reaches script [] (some script)
  | step {before : List (Moment I)} {moment : Moment I} {present : Script I σ α}
      {rest : Option (Script I σ α)} (reached : Reaches script before (some present))
      (advance : present.Advances moment rest) : Reaches script (moment :: before) rest

def recite (surroundings : Surroundings I W) :
    Script I σ α → W → List (Moment I) → List (Moment I)
  | done _ _, _, before => before
  | ask _ call resume, world, before =>
      let (answer, world) := surroundings.answer call world
      (resume answer).recite surroundings world (.asked call answer :: before)
  | clock resume, world, before =>
      let now := surroundings.now world
      (resume now).recite surroundings world (.read now :: before)
  | count event next, world, before =>
      next.recite surroundings (surroundings.count event world) (.counted event :: before)

theorem reaches_recite (surroundings : Surroundings I W) {whole script : Script I σ α}
    {before : List (Moment I)} (hreached : whole.Reaches before (some script)) (world : W) :
    whole.Reaches (script.recite surroundings world before)
      (some (.done (script.play surroundings world).1.1 (script.play surroundings world).1.2)) := by
  induction script generalizing before world with
  | done held value => exact hreached
  | ask held call resume ih => exact ih _ (hreached.step (.asked _)) _
  | clock resume ih => exact ih _ (hreached.step (.read _)) _
  | count event next ih => exact ih (hreached.step .counted) _

end Script

end BucketKeys
