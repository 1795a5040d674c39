import BucketKeys.Proofs.Backoff.Fibonacci
import BucketKeys.Proofs.Issuance.Rehearsal
import BucketKeys.Proofs.Script.Moments
import BucketKeys.Service

/-!
How long the controller waits after failures. Rounds over any resources end, and their failures are
handled, in any order; the delay of a resource depends on nothing but its own failures since its
last success.
-/

namespace BucketKeys

namespace Service

variable {R : Interface} {connector : Pass.Connector R} {options : PassOptions}

inductive Episode where
  | ended (resource : Credentials) (outcome : Round.Outcome)
  /-- It was settled when the next round is due after a failure. -/
  | handled (resource : Credentials) (fault : Fault) (next : Action)

namespace Episode

def name : Episode → String
  | ended resource _ => resource.displayName
  | handled resource _ _ => resource.displayName

def isSuccess : Episode → Bool
  | ended _ (.finished _) => true
  | _ => false

def isFailure : Episode → Bool
  | handled _ fault _ => !fault.isFatal
  | _ => false

end Episode

/-- A round that was refused, a failure that no other round mends, and whatever happens to another
name. -/
inductive Episode.Neutral (name : String) : Episode → Prop where
  | refused (resource : Credentials) (delay : Time.Span) :
      Neutral name (.ended resource (.limited delay))
  | fatal (resource : Credentials) {fault : Fault} (fatal : fault.isFatal = true) (next : Action) :
      Neutral name (.handled resource fault next)
  | other {episode : Episode} (other : episode.name ≠ name) : Neutral name episode

/-- The failures of a name since its last success. The last episode comes first. -/
def failures (name : String) (episodes : List Episode) : Nat :=
  let own := episodes.filter (·.name == name)
  (own.takeWhile (!·.isSuccess)).countP (·.isFailure)

/-- The episodes of a controller that starts without failures, and the failures it holds then.
Rounds may overlap; only the order of their ends counts. -/
inductive Timeline (connector : Pass.Connector R) (options : PassOptions) :
    List Episode → Retries → Prop where
  | start : Timeline connector options [] {}
  | ends {episodes : List Episode} {retries : Retries} {resource held : Credentials}
      {outcome : Round.Outcome} {moments : List (Moment (Round.interface R))}
      (timeline : Timeline connector options episodes retries)
      (reached : (Round.run connector options resource).Reaches moments
        (some (.done held outcome))) :
      Timeline connector options (.ended resource outcome :: episodes)
        (retries.afterRound resource.displayName outcome)
  | handles {episodes : List Episode} {retries : Retries} {resource : Credentials} {fault : Fault}
      (timeline : Timeline connector options episodes retries)
      (failed : .ended resource (.failed fault) ∈ episodes) :
      Timeline connector options
        (.handled resource fault (retries.retry resource.displayName fault).1 :: episodes)
        (retries.retry resource.displayName fault).2.2

theorem failures_cons (name : String) (episode : Episode) (episodes : List Episode) :
    failures name (episode :: episodes) =
      if episode.name = name then
        if episode.isSuccess then 0
        else failures name episodes + if episode.isFailure then 1 else 0
      else failures name episodes := by
  by_cases hown : episode.name = name
  · cases hended : episode.isSuccess with
    | true => simp [failures, hown, hended]
    | false => simp [failures, hown, hended, List.countP_cons]
  · simp [failures, hown]

end Service

namespace Retries

def backoff (name : String) (retries : Retries) : Backoff :=
  ((retries.get? name).getD .fresh).backoff

theorem backoff_afterRound (retries : Retries) (name other : String) (outcome : Round.Outcome) :
    (retries.afterRound other outcome).backoff name =
      match outcome with
      | .finished _ => if other = name then Retry.fresh.backoff else retries.backoff name
      | _ => retries.backoff name := by
  cases outcome with
  | limited delay => rfl
  | failed fault => rfl
  | finished action =>
      simp only [backoff, afterRound, succeed, Dictionary.get?_erase]
      split <;> rfl

theorem backoff_retry (retries : Retries) (name other : String) (fault : Fault) :
    (retries.retry other fault).2.2.backoff name =
      if fault.isFatal = false ∧ other = name then (retries.backoff name).advance
      else retries.backoff name := by
  cases hfatal : fault.isFatal with
  | true => simp [retry, hfatal]
  | false =>
      by_cases hsame : other = name
      · subst hsame
        simp [retry, hfatal, backoff, fail, Retry.next, Retry.countFailure]
      · simp [retry, hfatal, backoff, fail, Dictionary.get?_insert, hsame]

theorem retry_of_fatal (retries : Retries) (name : String) {fault : Fault}
    (hfatal : fault.isFatal = true) : (retries.retry name fault).1 = .awaitChange := by
  simp [retry, hfatal]

theorem retry_of_mendable (retries : Retries) (name : String) {fault : Fault}
    (hmendable : fault.isFatal = false) :
    (retries.retry name fault).1 =
      .requeue (.ofSeconds (retries.backoff name).delay.toNat) := by
  simp [retry, hmendable, fail, backoff, Retry.next, Retry.countFailure]

end Retries

namespace Service

variable {R : Interface} {connector : Pass.Connector R} {options : PassOptions}
  {episodes : List Episode} {retries : Retries}

open Function (iterate_succ_apply')

theorem Timeline.backoff (htimeline : Timeline connector options episodes retries) (name : String) :
    retries.backoff name = Backoff.advance^[failures name episodes] Retry.fresh.backoff := by
  induction htimeline with
  | start => rfl
  | @ends episodes retries resource held outcome moments htimeline hreached ih =>
      rw [Retries.backoff_afterRound, failures_cons]
      by_cases hown : resource.displayName = name
      · cases outcome with
        | finished action => simp [Episode.name, Episode.isSuccess, hown]
        | limited delay | failed fault =>
            simpa [Episode.name, Episode.isSuccess, Episode.isFailure, hown] using ih
      · cases outcome with
        | finished action | limited delay | failed fault =>
            simpa [Episode.name, hown] using ih
  | @handles episodes retries resource fault htimeline failed ih =>
      rw [Retries.backoff_retry, failures_cons]
      by_cases hown : resource.displayName = name
      · cases hfatal : fault.isFatal with
        | true => simpa [Episode.name, Episode.isSuccess, Episode.isFailure, hown, hfatal] using ih
        | false =>
            simp [Episode.name, Episode.isSuccess, Episode.isFailure, hown, hfatal, ih,
              iterate_succ_apply']
      · simpa [Episode.name, hown] using ih

def settlement (resource : Credentials) (outcome : Round.Outcome) (next : Action) : List Episode :=
  match outcome with
  | .failed fault => [.handled resource fault next, .ended resource outcome]
  | _ => [.ended resource outcome]

theorem Timeline.settles {resource held : Credentials} {outcome : Round.Outcome}
    {moments : List (Moment (Round.interface R))}
    (htimeline : Timeline connector options episodes retries)
    (hreached : (Round.run connector options resource).Reaches moments
      (some (.done held outcome))) :
    Timeline connector options
      (settlement resource outcome (settle retries resource.displayName outcome).1 ++ episodes)
      (settle retries resource.displayName outcome).2.2 := by
  have hended := htimeline.ends hreached
  cases outcome with
  | limited delay => exact hended
  | finished action => exact hended
  | failed fault => exact hended.handles List.mem_cons_self

theorem Timeline.answered (htimeline : Timeline connector options episodes retries)
    {after before : List Episode} {resource : Credentials} {fault : Fault} {next : Action}
    (hsplit : episodes = after ++ .handled resource fault next :: before) :
    ∃ earlier, Timeline connector options before earlier ∧
      next = (earlier.retry resource.displayName fault).1 := by
  induction htimeline generalizing after with
  | start => cases after <;> cases hsplit
  | ends htimeline hreached ih =>
      cases after with
      | nil => cases hsplit
      | cons last after => exact ih (List.cons.inj hsplit).2
  | handles htimeline hfailed ih =>
      cases after with
      | nil =>
          cases hsplit
          exact ⟨_, htimeline, rfl⟩
      | cons last after => exact ih (List.cons.inj hsplit).2

theorem failures_neutral {name : String} {episode : Episode} (hneutral : episode.Neutral name)
    (episodes : List Episode) : failures name (episode :: episodes) = failures name episodes := by
  rw [failures_cons]
  cases hneutral with
  | refused resource delay => simp [Episode.isSuccess, Episode.isFailure]
  | fatal resource fatal next => simp [Episode.isSuccess, Episode.isFailure, fatal]
  | other other => simp [other]

/-- After a failure that another round may mend, the wait of a resource is the Fibonacci number of
its failures since its last success, a minute at most. -/
theorem waits_follow_failures (timeline : Timeline connector options episodes retries) :
    (∀ after before resource fault next,
      episodes = after ++ .handled resource fault next :: before →
        (fault.isFatal = false → next = .requeue (.ofSeconds
          (min 60 (Nat.fib (failures resource.displayName
            (.handled resource fault next :: before)))))) ∧
        (fault.isFatal = true → next = .awaitChange)) ∧
      ∀ name (episode : Episode), episode.Neutral name → ∀ before,
        failures name (episode :: before) = failures name before := by
  refine ⟨?_, fun name episode hneutral before => failures_neutral hneutral before⟩
  intro after before resource fault next hsplit
  obtain ⟨earlier, hknown, hanswer⟩ := timeline.answered hsplit
  refine ⟨fun hmendable => ?_, fun hfatal => ?_⟩
  · have hcounted : failures resource.displayName (.handled resource fault next :: before) =
        failures resource.displayName before + 1 := by
      simp [failures_cons, Episode.name, Episode.isSuccess, Episode.isFailure, hmendable]
    rw [hcounted, hanswer, Retries.retry_of_mendable _ _ hmendable, hknown.backoff,
      Retry.toNat_delay_iterate]
  · rw [hanswer, Retries.retry_of_fatal _ _ hfatal]

open Issuance

def unconfigured : (call : Pass.Call Issuance.interface) → Pass.Answer call
  | .remote (.authentication (.providerConfig _)) => Except.error .configurationMissing
  | call => obliging none (tokenNamed "token") call

theorem waits_follow_failures_unconfigured :
    ∃ fault next before retries,
      Timeline Issuance.connector habits (.handled applicant fault next :: before) retries ∧
        fault.isFatal = false ∧ next = .requeue (.ofSeconds 2) := by
  have houtcome : (ending 0 unconfigured habits applicant).2 =
      .failed (.authenticationUnavailable .configurationMissing) := by decide +kernel
  have hreached := reaches_rehearsal 0 unconfigured habits applicant
  rw [houtcome] at hreached
  have hfirst := (Timeline.start.ends hreached).handles List.mem_cons_self
  have hsecond := (hfirst.ends hreached).handles List.mem_cons_self
  have hthird := (hsecond.ends hreached).handles List.mem_cons_self
  obtain ⟨hwaits, -⟩ := waits_follow_failures hthird
  exact ⟨_, _, _, _, hthird, rfl, (hwaits [] _ _ _ _ rfl).1 rfl⟩

end Service

end BucketKeys
