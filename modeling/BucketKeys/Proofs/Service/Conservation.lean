import BucketKeys.InMemory.Rehearsal
import BucketKeys.Proofs.Issuance.Quiet
import BucketKeys.Proofs.Issuance.Rehearsal
import BucketKeys.Proofs.Metrics.Counts
import BucketKeys.Proofs.Round.Accounts
import BucketKeys.Proofs.Service.Retries
import Mathlib.Algebra.BigOperators.Group.List.Basic
import Mathlib.Algebra.Group.Nat.Defs

/-!
The metrics after rounds over any resources, against what the rounds returned and what a listener
at their clients was told. Rounds may overlap: only how often something was counted matters.
-/

namespace BucketKeys.Service

open Pass (Overheard Remark)

variable {R : Interface} {connector : Pass.Connector R} {options : PassOptions}

/-- A round that came to its end, with a listener at its client, and the failures so far when it is
settled. -/
structure Visit (connector : Pass.Connector R) (options : PassOptions) where
  resource : Credentials
  held : Credentials
  outcome : Round.Outcome
  moments : List (Moment (Round.interface (Overheard R)))
  reached : (Round.run connector.overheard options resource).Reaches moments
    (some (.done held outcome))
  heeded : ∀ moment ∈ moments, (Round.muffling Pass.muffler).Heeds moment
  retries : Retries

namespace Visit

/-- What the round returns, or, if it fails, what it is answered with. -/
def next (visit : Visit connector options) : Action :=
  (settle visit.retries visit.resource.displayName visit.outcome).1

def settling (visit : Visit connector options) : List Event :=
  (settle visit.retries visit.resource.displayName visit.outcome).2.1

def plain (visit : Visit connector options) : List (Moment (Round.interface R)) :=
  visit.moments.filterMap (Round.muffling Pass.muffler).heard?

def events (visit : Visit connector options) : List Event :=
  visit.settling ++ visit.plain.filterMap Moment.event?

def heard (said : Remark) (visit : Visit connector options) : Nat :=
  (Round.notes visit.moments).remarks.count said

/-- The round counted a requeue, and failed all the same. -/
def isForfeit (visit : Visit connector options) : Bool :=
  match visit.outcome with
  | .failed _ => (visit.plain.filterMap Moment.event?).any (·.isRequeue)
  | _ => false

variable (visit : Visit connector options)

theorem events_plain :
    visit.plain.filterMap Moment.event? = (Round.notes visit.moments).events := by
  refine (List.filterMap_filterMap ..).trans (congrArg (visit.moments.filterMap ·) ?_)
  funext moment
  cases moment with
  | asked call answer | lost call =>
      simp only [Muffler.heard?]
      cases Round.muffling Pass.muffler call <;> rfl
  | read | counted => rfl

theorem balanced {slow : Prop} (hsilent : connector.Silent) (hleaves : connector.Leaves slow) :
    Round.Balanced slow options (Round.notes visit.moments) visit.outcome :=
  Round.balanced_of_reaches hsilent hleaves visit.reached visit.heeded

theorem settling_requeues : ∀ event ∈ visit.settling, event.isRequeue = true := by
  obtain ⟨resource, held, outcome, moments, hreached, hheeded, retries⟩ := visit
  cases outcome with
  | limited delay | finished action => rintro _ ⟨⟩
  | failed fault =>
      simp only [settling, settle, Retries.retry]
      cases fault.isFatal with
      | true => rintro _ ⟨⟩
      | false => exact List.forall_mem_singleton.mpr rfl

theorem due_settled : visit.settling.countP (·.isRequeue) + Pass.dueOf visit.outcome.result =
    if visit.next.isRequeue then 1 else 0 := by
  obtain ⟨resource, held, outcome, moments, hreached, hheeded, retries⟩ := visit
  cases outcome with
  | limited delay => rfl
  | finished action => cases action <;> rfl
  | failed fault =>
      simp only [settling, next, settle, Retries.retry]
      cases fault.isFatal <;> rfl

theorem count_events {event : Event} (hother : event.isRequeue = false) :
    visit.events.count event = (Round.notes visit.moments).events.count event := by
  have hapart : visit.settling.count event = 0 := by
    refine List.count_eq_zero.mpr fun hmember => ?_
    rw [visit.settling_requeues event hmember] at hother
    cases hother
  rw [events, List.count_append, hapart, Nat.zero_add, events_plain]

theorem durations_events : visit.events.countP (·.isDuration) =
    (Round.notes visit.moments).events.countP (·.isDuration) := by
  have hapart : visit.settling.countP (·.isDuration) = 0 := by
    refine List.countP_eq_zero.mpr fun event hmember => ?_
    have hrequeue := visit.settling_requeues event hmember
    cases event with
    | requeued reason => simp [Event.isDuration]
    | _ => cases hrequeue
  rw [events, List.countP_append, hapart, Nat.zero_add, events_plain]

variable {slow : Prop} (hsilent : connector.Silent) (hleaves : connector.Leaves slow)

include hsilent hleaves

theorem forfeit_spec :
    (Round.notes visit.moments).events.countP (·.isRequeue) =
        Pass.dueOf visit.outcome.result + (if visit.isForfeit then 1 else 0) ∧
      (visit.isForfeit → slow ∧ visit.outcome = .failed (.timeout options.timeout) ∧
        0 < visit.heard .leaving) := by
  obtain hdue | ⟨htakes, hone, hlate, htold⟩ := (visit.balanced hsilent hleaves).requeues
  · have hkept : visit.isForfeit = false := by
      rw [isForfeit, events_plain]
      cases hended : visit.outcome with
      | limited delay | finished action => rfl
      | failed fault =>
          rw [hended] at hdue
          exact List.any_eq_false.mpr (List.countP_eq_zero.mp hdue)
    simp [hkept, hdue]
  · have hlost : visit.isForfeit = true := by
      simp only [isForfeit, hlate, events_plain]
      exact List.any_eq_true.mpr (List.countP_pos_iff.mp (hone ▸ Nat.one_pos))
    refine ⟨?_, fun _ => ⟨htakes, hlate, List.count_pos_iff.mpr htold⟩⟩
    rw [hone, hlate, hlost]
    rfl

theorem requeues_events : visit.events.countP (·.isRequeue) =
    (if visit.next.isRequeue then 1 else 0) + if visit.isForfeit then 1 else 0 := by
  have hsettled := visit.due_settled
  rw [events, List.countP_append, events_plain, (visit.forfeit_spec hsilent hleaves).1]
  omega

end Visit

theorem leaves_anyhow (connector : Pass.Connector R) : connector.Leaves True := fun _ =>
  (Script.asks_anything _).imp fun _ _ _ _ _ _ => Script.asks_anything _

/-- Each round is what a visit is without its listener, and each visit is a round. -/
theorem reaches_iff_visit (resource held : Credentials) (outcome : Round.Outcome)
    (moments : List (Moment (Round.interface R))) (retries : Retries) :
    (Round.run connector options resource).Reaches moments (some (.done held outcome)) ↔
      ∃ visit : Visit connector options, visit.resource = resource ∧ visit.held = held ∧
        visit.outcome = outcome ∧ visit.retries = retries ∧ visit.plain = moments := by
  rw [← Round.muffled_run]
  constructor
  · intro hreached
    obtain ⟨whole, hvisited, hheeded, hplain⟩ := Script.reaches_of_muffled hreached
    exact ⟨⟨resource, held, outcome, whole, hvisited, hheeded, retries⟩, rfl, rfl, rfl, rfl, hplain⟩
  · rintro ⟨visit, rfl, rfl, rfl, -, rfl⟩
    exact visit.reached.muffled visit.heeded

theorem sum_indicator (visits : List α) (p : α → Bool) :
    (visits.map fun visit => if p visit then 1 else 0).sum = visits.countP p := by
  induction visits with
  | nil => rfl
  | cons visit visits ih =>
      rw [List.map_cons, List.sum_cons, ih, List.countP_cons]
      omega

theorem countP_visits {visits : List (Visit connector options)} {events : List Event}
    (horder : events.Perm (visits.flatMap Visit.events)) (p : Event → Bool)
    {share : Visit connector options → Nat} (heach : ∀ visit, visit.events.countP p = share visit) :
    events.countP p = (visits.map share).sum := by
  rw [horder.countP_eq, List.countP_flatMap]
  congr 2
  exact funext heach

theorem count_visits {visits : List (Visit connector options)} {events : List Event}
    (horder : events.Perm (visits.flatMap Visit.events)) {event : Event}
    (hother : event.isRequeue = false) {share : Visit connector options → Nat}
    (heach : ∀ visit, (Round.notes visit.moments).events.count event = share visit) :
    events.count event = (visits.map share).sum :=
  countP_visits horder _ fun visit => (visit.count_events hother).trans (heach visit)

/-- Rounds, failures, creations and deletions are counted once each. A requeue is counted for each
that is returned, and once more for each round that had come to one when it was given up: that
happens only while its client disconnects. -/
theorem metrics_conserved (silent : connector.Silent) (visits : List (Visit connector options))
    (events : List Event) (order : events.Perm (visits.flatMap Visit.events)) (before : Metrics) :
    let after := before.recordAll events
    after.passes = before.passes + visits.length ∧
      after.rateLimited + after.passSeconds.count =
        before.rateLimited + before.passSeconds.count + visits.length ∧
      (∀ label, after.failuresOf label =
        before.failuresOf label + visits.countP (·.outcome.failsWith label)) ∧
      after.requeueTotal = before.requeueTotal + visits.countP (·.next.isRequeue) +
        visits.countP (·.isForfeit) ∧
      (∀ visit ∈ visits, visit.isForfeit →
        visit.outcome = .failed (.timeout options.timeout) ∧ 0 < visit.heard .leaving) ∧
      (connector.Leaves False → ∀ visit ∈ visits, visit.isForfeit = false) ∧
      after.created = before.created + (visits.map (·.heard .created)).sum ∧
      after.deleted = before.deleted + (visits.map (·.heard .deleted)).sum ∧
      ∀ (resource held : Credentials) (outcome : Round.Outcome)
        (moments : List (Moment (Round.interface R))) (retries : Retries),
        (Round.run connector options resource).Reaches moments (some (.done held outcome)) ↔
          ∃ visit : Visit connector options, visit.resource = resource ∧ visit.held = held ∧
            visit.outcome = outcome ∧ visit.retries = retries ∧ visit.plain = moments := by
  intro after
  have hanyhow := leaves_anyhow connector
  have hbalanced (visit : Visit connector options) := visit.balanced silent hanyhow
  refine ⟨?_, ?_, fun label => ?_, ?_, fun visit _ hforfeit => ?_, fun leaves visit _ => ?_, ?_, ?_,
    reaches_iff_visit⟩
  · have hpasses := count_visits order rfl fun visit => (hbalanced visit).passes
    rw [Metrics.passes_recordAll, hpasses, List.map_const', List.sum_replicate_nat, Nat.mul_one]
  · have hlimited : events.count .rateLimited = _ := count_visits order rfl fun visit => rfl
    have hlasting := countP_visits order (·.isDuration) fun visit => visit.durations_events
    -- Each visit was turned away or has lasted for a time, and not both.
    have hboth := funext fun visit => (hbalanced visit).admissions
    rw [Metrics.rateLimited_recordAll, Metrics.durations_recordAll, hlimited, hlasting,
      Nat.add_add_add_comm, ← List.sum_map_add, hboth, List.map_const', List.sum_replicate_nat,
      Nat.mul_one]
  · have hfailures := count_visits order rfl fun visit => (hbalanced visit).failures label
    rw [Metrics.failuresOf_recordAll, hfailures, sum_indicator]
  · have hrequeues := countP_visits order (·.isRequeue) fun visit =>
      visit.requeues_events silent hanyhow
    rw [Metrics.requeueTotal_recordAll, hrequeues, List.sum_map_add, sum_indicator, sum_indicator,
      Nat.add_assoc]
  · exact ((visit.forfeit_spec silent hanyhow).2 hforfeit).2
  · cases hlost : visit.isForfeit with
    | false => rfl
    | true => exact ((visit.forfeit_spec silent leaves).2 hlost).1.elim
  · have hcreated := count_visits order rfl fun visit => (hbalanced visit).created
    rw [Metrics.created_recordAll, hcreated]
    rfl
  · have hdeleted := count_visits order rfl fun visit => (hbalanced visit).deleted
    rw [Metrics.deleted_recordAll, hdeleted]
    rfl

section

open Issuance

theorem metrics_conserved_started : ∃ first second : Visit Issuance.connector habits,
    first.plain = rehearsal 1717200000 (obliging none (tokenNamed "token")) habits applicant ∧
      second.plain = rehearsal 1717200000 unconfigured habits applicant ∧
      (second.events ++ first.events).Perm ([first, second].flatMap Visit.events) ∧
      Issuance.connector.Silent ∧
      let after := Metrics.zero.recordAll (second.events ++ first.events)
      after.passes = 2 ∧ after.requeueTotal = 2 ∧
        after.created = first.heard .created + second.heard .created ∧ after.created = 1 := by
  have hcreation := reaches_rehearsal 1717200000
      (obliging none (tokenNamed "token")) habits applicant
  have hfailure := reaches_rehearsal 1717200000 unconfigured habits applicant
  have hcreated : (ending 1717200000 (obliging none (tokenNamed "token")) habits applicant).2 =
      .finished (.requeue habits.shortWait) := by decide +kernel
  have hfailed : (ending 1717200000 unconfigured habits applicant).2 =
      .failed (.authenticationUnavailable .configurationMissing) := by decide +kernel
  rw [hcreated] at hcreation
  rw [hfailed] at hfailure
  obtain ⟨first, -, -, hfinished, -, hplain⟩ := (reaches_iff_visit _ _ _ _ {}).mp hcreation
  obtain ⟨second, -, -, hrefused, -, hbare⟩ := (reaches_iff_visit _ _ _ _ {}).mp hfailure
  have horder : (second.events ++ first.events).Perm ([first, second].flatMap Visit.events) := by
    simpa using List.perm_append_comm
  obtain ⟨hpasses, -, -, hrequeues, -, hprompt, hmade, -, -⟩ :=
    metrics_conserved connector_silent [first, second] _ horder Metrics.zero
  refine ⟨first, second, hplain, hbare, horder, connector_silent, hpasses, ?_, ?_, ?_⟩
  · have hkept := List.countP_eq_zero.mpr fun visit hmember =>
      ne_true_of_eq_false (hprompt connector_leaves visit hmember)
    have hblank : Metrics.zero.requeueTotal = 0 := rfl
    rw [hrequeues, hkept, hblank]
    simp [Visit.next, hfinished, hrefused, settle, Retries.retry, Fault.isFatal, Action.isRequeue]
  · rw [hmade]
    exact (Nat.zero_add _).trans (congrArg _ (Nat.add_zero _))
  · have hcounted : (second.events ++ first.events).count .resourceCreated = 1 := by
      rw [List.count_append, second.count_events rfl, first.count_events rfl, ← second.events_plain,
        ← first.events_plain, hplain, hbare]
      decide +kernel
    rw [Metrics.created_recordAll, hcounted]
    rfl

def dawdling : Surroundings (Round.interface InMemory.Rehearsal.interface) Nat where
  now ticks := ⟨1717200000 + ticks, 0⟩
  count _ ticks := ticks
  answer
    | .admission, ticks => (Time.Span.zero, ticks + 1)
    | .within _ (.remote .disconnect), ticks => (none, ticks + 120)
    | .within _ call, ticks => (some (answer call), ticks + 1)
    | .recordFailure _, ticks => (Except.ok (), ticks + 1)
where
  answer : (call : Pass.Call InMemory.Rehearsal.interface) → Pass.Answer call
    | .remote _ => { resourceExists := true, upToDate := true : InMemory.Cue }
    | .updateAnnotations .. => Except.ok ()
    | .updateFinalizers .. => Except.ok ()
    | .updateStatus _ => Except.ok ()
    | .publish .. => Except.ok ()
    | .pause _ => ()

/-- A round that is given up while its client disconnects counts two requeues for one. -/
theorem requeue_counted_twice :
    let round := Round.run InMemory.Rehearsal.connector habits applicant
    let moments := round.recite dawdling 0 []
    let late : Round.Outcome := .failed (.timeout habits.timeout)
    let (next, settling, _) := settle {} applicant.displayName late
    (∃ held, round.Reaches moments (some (.done held late))) ∧ next.isRequeue ∧
      (Metrics.zero.recordAll (settling ++ moments.filterMap Moment.event?)).requeueTotal = 2 := by
  intro round moments late
  have houtcome : (round.play dawdling 0).1.2 = late := by decide +kernel
  have hreached : round.Reaches moments _ := Script.reaches_recite dawdling .here 0
  rw [houtcome] at hreached
  refine ⟨⟨_, hreached⟩, rfl, ?_⟩
  rw [Metrics.requeueTotal_recordAll]
  decide +kernel

end

end BucketKeys.Service
