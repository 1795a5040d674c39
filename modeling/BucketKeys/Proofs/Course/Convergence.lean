import BucketKeys.Proofs.Course.Haven
import BucketKeys.Proofs.Course.Publication

/-!
Rounds in calm surroundings: the first of them gets a token, the second takes note of it, and all
others leave the resource as it is.
-/

namespace BucketKeys

open Bookkeeping

open Time (Instant)

namespace Issuance

open TokenApi

variable {promise : Promise} {haven : Haven} {resource copy : Credentials} {options : PassOptions}

/-! The first pass -/

/-- A resource as the writes of the controller may have left it. -/
def Rewritten (resource stored : Credentials) : Prop :=
  ∃ annotations finalizers status,
    stored = { resource with
      metadata := { resource.metadata with annotations := annotations, finalizers := finalizers }
      status := status }

theorem Rewritten.refl (resource : Credentials) : Rewritten resource resource :=
  ⟨_, _, _, rfl⟩

theorem Rewritten.apply {stored : Credentials} (hrewritten : Rewritten resource stored)
    (write : Write) : Rewritten resource (write.apply stored) := by
  obtain ⟨annotations, finalizers, status, rfl⟩ := hrewritten
  cases write with
  | annotations changes => exact ⟨_, _, _, rfl⟩
  | finalizers list => exact ⟨_, _, _, rfl⟩
  | status copy => exact ⟨_, _, _, rfl⟩

theorem Rewritten.resolves {stored : Credentials} (hrewritten : Rewritten resource stored)
    (hresolves : promise.Resolves resource) : promise.Resolves stored := by
  obtain ⟨annotations, finalizers, status, rfl⟩ := hrewritten
  exact hresolves

/-- The token of the resource is there and known, and nothing is left to be done for it. -/
structure Endowed (resource : Credentials) (token : Token) (haven : Haven) : Prop where
  rewritten : Rewritten resource haven.stored
  complete : haven.stored.createIncomplete = false
  held : haven.stored.hasFinalizer = true
  name : haven.stored.externalName? = some token.id
  kept : haven.token? token.id = some token
  regular : haven.latest.Regular

theorem under_hold_held (held : copy.hasFinalizer = true) :
    (Pass.hold copy : Script (Pass.interface interface) _ _).Under promise.pass
      (Work.Succeeds fun after held _ => after = haven ∧ held = copy) haven := by
  apply Work.under_held_then
  rw [held]
  exact ⟨rfl, rfl⟩

theorem under_hold (haven : Haven) :
    (Pass.hold haven.stored : Script (Pass.interface interface) _ _).Under promise.pass
      (Work.Succeeds fun after held _ => after = { haven with stored := held } ∧
        Rewritten haven.stored held ∧ held.hasFinalizer = true) haven := by
  cases hlisted : haven.stored.hasFinalizer with
  | true =>
      apply Work.under_succeeds (under_hold_held hlisted)
      rintro _ _ _ ⟨rfl, rfl⟩
      exact ⟨rfl, .refl _, hlisted⟩
  | false =>
      apply Work.under_held_then
      rw [hlisted]
      apply Work.under_bind.mpr
      refine Work.under_held_then (Work.under_ask_known (fun _ => Iff.rfl) ?_)
      refine ⟨rfl, (Rewritten.refl haven.stored).apply (.finalizers _), ?_⟩
      exact List.contains_iff_mem.mpr haven.stored.finalizer_mem_finalizersWith

theorem under_createToken
    (hmatched : selectGroups promise.catalog copy.spec.forProvider.permissions ≠ []) :
    (create copy).Under promise.remote (Work.Succeeds fun after held details =>
      ∃ token request, token.id ≠ "" ∧ held = copy.setExternalName token.id ∧
        details = detailsOf copy token ∧
        after = { haven with
          tokens := token :: haven.tokens
          requests := request :: haven.requests
          created := token :: haven.created }) haven := by
  obtain ⟨fresh, hnamed, hunknown⟩ := haven.exists_fresh
  have hsome :
      (selectGroups promise.catalog copy.spec.forProvider.permissions).isEmpty = false := by
    simpa using hmatched
  refine Work.under_held_then (Work.under_bind.mpr ?_)
  refine Work.under_ask_known (fun _ => Iff.rfl) ?_
  dsimp only
  rw [hsome]
  refine Work.under_ask_then ⟨_, ⟨fresh, none, none, none, none⟩, rfl, hnamed, hunknown⟩ ?_
  rintro _ ⟨token, rfl, hnamed, -⟩
  exact ⟨token, _, hnamed, rfl, rfl, rfl⟩

/-- The bookkeeping of a creation that went well. -/
def recorded (pending succeeded : Instant) (name : Option String) (stored : Credentials) :
    Credentials :=
  (stored.patchAnnotations
    (.singleton pendingKey (some (Time.Rfc3339.stamp pending)))).patchAnnotations
      (Pass.successAnnotations (Time.Rfc3339.stamp succeeded) name)

theorem createIncomplete_recorded {pending succeeded : Instant} (hbegun : pending.Regular)
    (hended : succeeded.Regular) (hlater : ¬ succeeded < pending) (name : Option String)
    (stored : Credentials) :
    (recorded pending succeeded name stored).createIncomplete = false := by
  have hunchanged : (Pass.successAnnotations (Time.Rfc3339.stamp succeeded) name).get? pendingKey =
      none := by
    cases name with
    | none => simp [Pass.successAnnotations, succeededKey, pendingKey]
    | some name =>
        simp [Pass.successAnnotations, Dictionary.get?_insert, succeededKey, pendingKey,
          externalNameKey]
  have hknown : (Pass.successAnnotations (Time.Rfc3339.stamp succeeded) name).get? succeededKey =
      some (some (Time.Rfc3339.stamp succeeded)) := by
    rw [get?_successAnnotations_outcome (.inl rfl), if_pos rfl]
  simp [recorded, Credentials.createIncomplete, Credentials.annotationTime?,
    Credentials.annotationOf?_patchAnnotations, hunchanged, hknown,
    Time.Rfc3339.read?_stamp hbegun, Time.Rfc3339.read?_stamp hended, hlater]

theorem externalName?_recorded {name : String} (hnamed : name ≠ "") (pending succeeded : Instant)
    (stored : Credentials) :
    (recorded pending succeeded (some name) stored).externalName? = some name :=
  Credentials.externalName?_patchAnnotations_of_some hnamed
    (get?_successAnnotations_externalName _ _)

theorem Rewritten.recorded {stored : Credentials} (hrewritten : Rewritten resource stored)
    (pending succeeded : Instant) (name : Option String) :
    Rewritten resource (recorded pending succeeded name stored) :=
  (hrewritten.apply (.annotations _)).apply (.annotations _)

theorem externalName?_stamped {name : String} (hnamed : name ≠ "") (succeeded : String)
    (copy : Credentials) :
    ((copy.setExternalName name).annotate succeededKey succeeded).externalName? = some name := by
  simp [Credentials.externalName?, Credentials.setExternalName, Credentials.annotationOf?_annotate,
    succeededKey, externalNameKey, hnamed]

/-- What a first pass leaves behind. -/
structure Founded (resource : Credentials) (haven after : Haven) (token : Token) : Prop where
  endowed : Endowed resource token after
  requested : ∃ request, after.requests = request :: haven.requests
  created : after.created = token :: haven.created
  published : after.published = detailsOf resource token :: haven.published

theorem under_create (hspec : copy.spec = resource.spec)
    (hrewritten : Rewritten resource haven.stored) (held : haven.stored.hasFinalizer = true)
    (hmatched : selectGroups promise.catalog resource.spec.forProvider.permissions ≠ [])
    (hregular : haven.latest.Regular) :
    (Pass.create client options copy).Under promise.pass (Work.Succeeds fun after _ action =>
      action = .requeue options.shortWait ∧ ∃ token, Founded resource haven after token) haven := by
  refine Work.under_now_then (promise.can_read hregular) fun pending hbegun => ?_
  refine Work.under_bind.mpr (under_updateAnnotations ?_)
  apply Work.under_bind.mpr
  apply Work.under_bind.mpr
  refine Work.under_now_then (promise.can_read hbegun.1) fun announced hgoing => ?_
  refine Work.under_bind.mpr (Work.under_attempt.mpr (Script.under_through (fun _ _ => rfl) ?_))
  rw [← hspec] at hmatched
  refine Script.Under.imp (under_createToken hmatched) fun issued held result hknown => ?_
  cases result with
  | error fault => exact hknown.elim
  | ok details =>
      obtain ⟨token, request, hnamed, rfl, rfl, rfl⟩ := hknown
      refine Work.under_bind.mpr ⟨trivial, ?_⟩
      refine Work.under_now_then (promise.can_read hgoing.1) fun succeeded hended => ?_
      refine Work.under_bind.mpr (Work.under_held_then ?_)
      rw [externalName?_stamped hnamed]
      refine Work.under_bind.mpr (under_record ?_)
      rw [Work.Continues, Pass.publishAny, detailsOf_isEmpty]
      refine Work.under_bind.mpr (Work.under_held_then (Work.under_ask_known (fun _ => Iff.rfl) ?_))
      apply Work.under_succeeds (under_finish hended.1)
      rintro after held action ⟨rfl, now, hregular, rfl, rfl⟩
      refine ⟨rfl, token, ⟨?_, ?_, held, ?_, ?_, hregular⟩, ⟨request, rfl⟩, rfl, ?_⟩
      · exact (hrewritten.recorded pending succeeded _).apply (.status _)
      · -- A creation that is over when it began counts as complete, so the clock may stand still.
        have hlater : ¬ succeeded < pending := Instant.not_lt_trans hgoing.2 hended.2
        exact createIncomplete_recorded hbegun.1 hended.1 hlater _ haven.stored
      · exact externalName?_recorded hnamed pending succeeded haven.stored
      · exact List.find?_cons_of_pos (beq_self_eq_true _)
      · change detailsOf copy token :: haven.published = _
        rw [detailsOf, detailsOf, hspec]

structure Ready (promise : Promise) (haven : Haven) : Prop where
  named : haven.stored.name ≠ ""
  live : haven.stored.isDeleting = false
  unbound : haven.stored.externalName? = none
  complete : haven.stored.createIncomplete = false
  resolves : promise.Resolves haven.stored
  matched : selectGroups promise.catalog haven.stored.spec.forProvider.permissions ≠ []
  regular : haven.latest.Regular

theorem under_first (hready : Ready promise haven) :
    (Pass.run connector options haven.stored).Under promise.pass (Work.Succeeds
      fun after _ action => action = .requeue options.shortWait ∧
        ∃ token, Founded haven.stored haven after token) haven := by
  rw [run_eq]
  have hvacant (waited : Haven) (hlater : haven.Waited waited) :
      (observe haven.stored).Under promise.remote (Work.Succeeds fun after held observation =>
        haven.Waited after ∧ held = haven.stored ∧ observation = .absent) waited := by
    apply Work.under_held_then
    rw [hready.unbound]
    exact ⟨hlater, rfl, rfl⟩
  refine Work.under_andThen (under_enter hready.named hready.live hready.complete hready.resolves
    hready.regular hvacant) ?_
  rintro _ _ _ ⟨_, rfl, ⟨now, hlate, rfl⟩, rfl, rfl⟩
  apply Work.under_held_then
  rw [if_neg (by simp [hready.live])]
  apply Work.under_andThen (under_hold { haven with latest := now })
  rintro _ held _ ⟨rfl, hrewritten, hholds⟩
  refine Work.under_succeeds (under_create ?_ hrewritten hholds hready.matched hlate) ?_
  · obtain ⟨annotations, finalizers, status, rfl⟩ := hrewritten
    rfl
  · rintro after _ action ⟨hsame, token, hfounded⟩
    exact ⟨hsame, token, hfounded.endowed, hfounded.requested, hfounded.created, hfounded.published⟩

/-! The passes after it -/

def readiness (token : Token) : Instant → Condition :=
  if token.isUsable then Condition.available else Condition.unavailable

def sighted (token : Token) (seen : Instant) (stored : Credentials) : Credentials :=
  (stored.setObservation (observation token stored.spec.forProvider.accountId)).setCondition
    (readiness token seen)

def refreshed (token : Token) (seen finished : Instant) (stored : Credentials) : Credentials :=
  (sighted token seen stored).setCondition (.reconcileSuccess finished)

theorem readiness_equivalent (token : Token) (first second : Instant) :
    (readiness token first).Equivalent (readiness token second) := by
  unfold readiness
  split <;> exact ⟨rfl, rfl, rfl, rfl⟩

theorem readiness_type (token : Token) (now : Instant) :
    (readiness token now).type = Condition.ready := by
  unfold readiness
  split <;> rfl

theorem refreshed_eq (token : Token) (seen finished : Instant) (stored : Credentials) :
    refreshed token seen finished stored = { stored with
      status := some ⟨observation token stored.spec.forProvider.accountId,
        (Condition.reconcileSuccess finished).set
          ((readiness token seen).set stored.conditions)⟩ } := by
  unfold refreshed sighted Credentials.conditions
  cases status : stored.status with
  | none => simp [Credentials.setObservation, Credentials.setCondition, status]
  | some known => simp [Credentials.setObservation, Credentials.setCondition, status]

theorem refreshed_refreshed (token : Token) (seen finished later last : Instant)
    (stored : Credentials) :
    refreshed token later last (refreshed token seen finished stored) =
      refreshed token seen finished stored := by
  let conditions :=
    (Condition.reconcileSuccess finished).set ((readiness token seen).set stored.conditions)
  have hready : (readiness token later).Said conditions := by
    refine ((Condition.said_set _ _).set ?_).equivalent (readiness_equivalent token seen later)
    rw [readiness_type]
    change Condition.synced ≠ Condition.ready
    decide
  have hsynced : (Condition.reconcileSuccess last).Said conditions :=
    (Condition.said_set _ _).equivalent ⟨rfl, rfl, rfl, rfl⟩
  have hsteady : (Condition.reconcileSuccess last).set ((readiness token later).set conditions) =
      conditions := by
    rw [hready.set_eq, hsynced.set_eq]
  rw [refreshed_eq token seen finished stored, refreshed_eq]
  exact congrArg (fun conditions => ({ stored with status := some ⟨_, conditions⟩ } : Credentials))
    hsteady

theorem under_observe (haven : Haven) {token : Token} {stored : Credentials}
    (hname : stored.externalName? = some token.id) (hkept : haven.token? token.id = some token)
    (hregular : haven.latest.Regular) :
    (observe stored).Under promise.remote (Work.Succeeds fun after held found =>
      found = .current ∧ ∃ seen : Instant, seen.Regular ∧
        after = { haven with latest := seen } ∧ held = sighted token seen stored) haven := by
  have htold (answer : Except Failure Token) :
      promise.remote.allows haven (.asked (Call.getToken token.id) answer) ↔
        answer = Except.ok { token with value := none } := by
    change promise.Answers haven (.getToken token.id) answer ↔ _
    simp only [Promise.Answers, hkept]
    exact Iff.rfl
  apply Work.under_held_then
  rw [hname]
  apply Work.under_ask_known htold
  refine Work.under_bind.mpr (Work.under_bind.mpr ?_)
  refine Work.under_now_then (promise.can_read hregular) fun seen hallowed => ?_
  exact ⟨rfl, seen, hallowed.1, rfl, rfl⟩

theorem under_later {token : Token} (hnamed : resource.name ≠ "")
    (hlive : resource.isDeleting = false) (hresolves : promise.Resolves resource)
    (hendowed : Endowed resource token haven) :
    (Pass.run connector options haven.stored).Under promise.pass (Work.Succeeds
      fun after _ action => action = .requeue options.pollInterval ∧
        ∃ seen finished : Instant, finished.Regular ∧
          after = { haven with
            stored := refreshed token seen finished haven.stored
            latest := finished }) haven := by
  have hsame : haven.stored.name = resource.name ∧
      haven.stored.isDeleting = resource.isDeleting := by
    obtain ⟨annotations, finalizers, status, hsame⟩ := hendowed.rewritten
    rw [hsame]
    exact ⟨rfl, rfl⟩
  rw [← hsame.1] at hnamed
  rw [← hsame.2] at hlive
  have hobserves (waited : Haven) (hlater : haven.Waited waited) :
      (observe haven.stored).Under promise.remote (Work.Succeeds fun after held found =>
        found = .current ∧ ∃ seen : Instant, seen.Regular ∧
          after = { haven with latest := seen } ∧ held = sighted token seen haven.stored)
        waited := by
    obtain ⟨now, hregular, rfl⟩ := hlater
    exact under_observe { haven with latest := now } hendowed.name hendowed.kept hregular
  rw [run_eq]
  refine Work.under_andThen (under_enter hnamed hlive hendowed.complete
    (hendowed.rewritten.resolves hresolves) hendowed.regular hobserves) ?_
  rintro _ _ _ ⟨_, rfl, rfl, seen, hregular, rfl, rfl⟩
  apply Work.under_held_then
  rw [if_neg (by exact Bool.eq_false_iff.mp hlive)]
  refine Work.under_andThen (under_hold_held hendowed.held) ?_
  rintro _ _ _ ⟨rfl, rfl⟩
  change Script.Under promise.pass _ ((Pass.finish "poll" options.pollInterval :
    Pass.Step interface Action) _) _
  apply Work.under_succeeds (under_finish hregular)
  rintro after held action ⟨rfl, finished, hregular, rfl, rfl⟩
  exact ⟨rfl, seen, finished, hregular, rfl⟩

/-! Rounds -/

theorem under_round (ends : Haven → Action → Prop) (hregular : haven.latest.Regular)
    (hpass : ∀ start : Instant, start.Regular →
      (Pass.run connector options haven.stored).Under promise.pass
        (Work.Succeeds fun after _ action => after.latest.Regular ∧ ∀ stop : Instant, stop.Regular →
          ends { after with latest := stop } action)
        { haven with latest := start }) :
    (Round.run connector options haven.stored).Under (Round.admitting promise.pass)
      (fun after _ outcome => ∃ action, outcome = .finished action ∧ ends after action) haven := by
  have hreadable (haven : Haven) (hregular : haven.latest.Regular) :
      ∃ now, (Round.admitting promise.pass).allows haven (.read now) := by
    obtain ⟨now, hallowed⟩ := promise.can_read hregular
    exact ⟨now, by rintro _ ⟨⟩; exact hallowed⟩
  refine ⟨by rintro _ ⟨⟩; trivial, ⟨Time.Span.zero, rfl⟩, ?_⟩
  rintro _ rfl
  change (Round.timed connector options haven.stored).Under _ _ haven
  refine ⟨hreadable haven hregular, fun start hallowed => Script.under_bind.mpr ?_⟩
  have htimely := hpass start (hallowed _ rfl).1
  refine (Round.under_upTo (fun _ _ => id) htimely).imp fun after held result hknown => ?_
  cases result with
  | error fault => exact hknown.elim
  | ok action =>
      refine ⟨hreadable after hknown.1, fun stop hallowed => ?_⟩
      exact ⟨by rintro _ ⟨⟩; trivial, action, rfl, hknown.2 stop (hallowed _ rfl).1⟩

theorem Endowed.waits {token : Token} (hendowed : Endowed resource token haven) {now : Instant}
    (hregular : now.Regular) : Endowed resource token { haven with latest := now } :=
  ⟨hendowed.rewritten, hendowed.complete, hendowed.held, hendowed.name, hendowed.kept, hregular⟩

theorem Endowed.refreshed {token : Token} (hendowed : Endowed resource token haven)
    (seen finished : Instant) :
    Endowed resource token
      { haven with stored := refreshed token seen finished haven.stored } where
  rewritten := by
    obtain ⟨annotations, finalizers, status, hsame⟩ := hendowed.rewritten
    rw [refreshed_eq, hsame]
    exact ⟨_, _, _, rfl⟩
  complete := hendowed.complete
  held := hendowed.held
  name := hendowed.name
  kept := hendowed.kept
  regular := hendowed.regular

theorem first_round (hready : Ready promise haven) :
    (Round.run connector options haven.stored).Under (Round.admitting promise.pass)
      (fun after _ outcome => outcome = .finished (.requeue options.shortWait) ∧
        ∃ token, Founded haven.stored haven after token) haven := by
  let ends (after : Haven) (action : Action) : Prop :=
    action = .requeue options.shortWait ∧ ∃ token, Founded haven.stored haven after token
  refine (under_round ends hready.regular fun start hregular => ?_).imp ?_
  · have hbegun : Ready promise { haven with latest := start } :=
      ⟨hready.named, hready.live, hready.unbound, hready.complete, hready.resolves, hready.matched,
        hregular⟩
    apply Work.under_succeeds (under_first hbegun)
    rintro after _ action ⟨hsame, token, hfounded⟩
    refine ⟨hfounded.endowed.regular, fun stop hregular => ⟨hsame, token, ?_⟩⟩
    exact ⟨hfounded.endowed.waits hregular, hfounded.requested, hfounded.created,
        hfounded.published⟩
  · rintro after _ _ ⟨_, rfl, rfl, hfounded⟩
    exact ⟨rfl, hfounded⟩

theorem later_round {token : Token} (hnamed : resource.name ≠ "")
    (hlive : resource.isDeleting = false) (hresolves : promise.Resolves resource)
    (hendowed : Endowed resource token haven) :
    (Round.run connector options haven.stored).Under (Round.admitting promise.pass)
      (fun after _ outcome => outcome = .finished (.requeue options.pollInterval) ∧
        ∃ seen finished now : Instant, now.Regular ∧
          after = { haven with
            stored := refreshed token seen finished haven.stored
            latest := now }) haven := by
  let ends (after : Haven) (action : Action) : Prop :=
    action = .requeue options.pollInterval ∧ ∃ seen finished now : Instant, now.Regular ∧
      after = { haven with
        stored := refreshed token seen finished haven.stored
        latest := now }
  refine (under_round ends hendowed.regular fun start hregular => ?_).imp ?_
  · apply Work.under_succeeds (under_later hnamed hlive hresolves (hendowed.waits hregular))
    rintro after _ action ⟨hsame, seen, finished, hregular, rfl⟩
    exact ⟨hregular, fun stop hregular => ⟨hsame, seen, finished, stop, hregular, rfl⟩⟩
  · rintro after _ _ ⟨_, rfl, rfl, hknown⟩
    exact ⟨rfl, hknown⟩

structure Episode where
  outcome : Round.Outcome
  /-- The stored resource at the end of the round. -/
  left : Credentials

/-- Rounds one after the other in calm surroundings, the last of them first. -/
inductive Rounds (promise : Promise) (options : PassOptions) (start : Haven) :
    List Episode → Haven → Prop where
  | none : Rounds promise options start [] start
  | next {episodes : List Episode} {haven : Haven} {held : Credentials} {outcome : Round.Outcome}
      {moments : List (Moment (Round.interface interface))}
      (rounds : Rounds promise options start episodes haven)
      (reached : (Round.run connector options haven.stored).Reaches moments
        (some (.done held outcome)))
      (kept : (Round.admitting promise.pass).Kept haven moments) :
      Rounds promise options start
        (⟨outcome, ((Round.admitting promise.pass).along haven moments).stored⟩ :: episodes)
        ((Round.admitting promise.pass).along haven moments)

structure Settled (options : PassOptions) (start : Haven) (token : Token)
    (first second : Credentials) (later : Nat) (episodes : List Episode) (haven : Haven) :
    Prop where
  founded : Founded start.stored start haven token
  episodes : episodes =
    List.replicate later ⟨.finished (.requeue options.pollInterval), second⟩ ++
      [⟨.finished (.requeue options.shortWait), first⟩]
  name : first.externalName? = some token.id
  stored : haven.stored = if later = 0 then first else second
  steady : later ≠ 0 → ∀ seen finished, refreshed token seen finished second = second

theorem Settled.next {start : Haven} {token : Token} {first second : Credentials} {later : Nat}
    {episodes : List Episode} {seen finished now : Instant}
    (hsettled : Settled options start token first second later episodes haven)
    (hregular : now.Regular) :
    let after := { haven with
      stored := refreshed token seen finished haven.stored
      latest := now }
    Settled options start token first after.stored (later + 1)
      (⟨.finished (.requeue options.pollInterval), after.stored⟩ :: episodes) after := by
  intro after
  have hendowed : Endowed start.stored token after :=
    (hsettled.founded.endowed.refreshed seen finished).waits hregular
  have hsame : later ≠ 0 → after.stored = second := by
    intro hsome
    change refreshed token seen finished haven.stored = second
    rw [hsettled.stored, if_neg hsome, hsettled.steady hsome]
  refine ⟨⟨hendowed, hsettled.founded.requested, hsettled.founded.created,
      hsettled.founded.published⟩,
    ?_, hsettled.name, rfl, fun _ seen finished => refreshed_refreshed ..⟩
  rw [List.replicate_succ, List.cons_append, hsettled.episodes]
  cases later with
  | zero => rfl
  | succ later => rw [hsame (Nat.succ_ne_zero later)]

theorem Rounds.settled {start : Haven} {episodes : List Episode} (hready : Ready promise start)
    (hrounds : Rounds promise options start episodes haven) :
    (episodes = [] ∧ haven = start) ∨
      ∃ token first second later,
        Settled options start token first second later episodes haven := by
  induction hrounds with
  | none => exact .inl ⟨rfl, rfl⟩
  | @next episodes before held outcome moments hrounds hreached hkept ih =>
      right
      rcases ih with ⟨rfl, rfl⟩ | ⟨token, first, second, later, hsettled⟩
      · obtain ⟨rfl, token, hfounded⟩ := (first_round hready).done hreached hkept
        exact ⟨token, _, before.stored, 0, hfounded, rfl, hfounded.endowed.name, rfl, absurd rfl⟩
      · obtain ⟨rfl, seen, finished, now, hregular, hsame⟩ := (later_round hready.named hready.live
          hready.resolves hsettled.founded.endowed).done hreached hkept
        rw [hsame]
        exact ⟨token, first, _, later + 1, hsettled.next hregular⟩

theorem rounds_exist {start : Haven} (hready : Ready promise start) (options : PassOptions)
    (number : Nat) :
    ∃ episodes haven, episodes.length = number ∧ Rounds promise options start episodes haven := by
  induction number with
  | zero => exact ⟨[], start, rfl, .none⟩
  | succ number ih =>
      obtain ⟨episodes, haven, rfl, hrounds⟩ := ih
      have hgoes : ∃ moments held outcome,
          (Round.run connector options haven.stored).Reaches moments (some (.done held outcome)) ∧
            (Round.admitting promise.pass).Kept haven moments := by
        rcases hrounds.settled hready with ⟨-, rfl⟩ | ⟨token, first, second, later, hsettled⟩
        · exact (first_round hready).ending .here trivial
        · exact (later_round hready.named hready.live hready.resolves
              hsettled.founded.endowed).ending
            .here trivial
      obtain ⟨moments, held, outcome, hreached, hkept⟩ := hgoes
      exact ⟨_, _, rfl, hrounds.next hreached hkept⟩

/-- Any number of rounds can be had, and all of them together ask for one token and publish it once.
The first of them is soon followed by another one, and from the second on none changes the
resource. -/
theorem rounds_converge (options : PassOptions) {start : Haven} (ready : Ready promise start) :
    (∀ number, ∃ episodes haven, episodes.length = number ∧
      Rounds promise options start episodes haven) ∧
    ∀ later episodes haven, Rounds promise options start episodes haven →
      episodes.length = later + 1 →
        ∃ token request details first second,
          haven.requests = request :: start.requests ∧
          haven.created = token :: start.created ∧
          haven.published = details :: start.published ∧
          first.externalName? = some token.id ∧
          details.get? accessKeyName = some (Text.encode token.id) ∧
          episodes =
            List.replicate later ⟨.finished (.requeue options.pollInterval), second⟩ ++
              [⟨.finished (.requeue options.shortWait), first⟩] := by
  refine ⟨rounds_exist ready options, fun later episodes haven hrounds hlength => ?_⟩
  rcases hrounds.settled ready with ⟨rfl, -⟩ | ⟨token, first, second, number, hsettled⟩
  · cases hlength
  · have hsame : number = later := by
      rw [hsettled.episodes] at hlength
      simpa using hlength
    subst hsame
    obtain ⟨request, hrequested⟩ := hsettled.founded.requested
    exact ⟨token, request, _, first, second, hrequested, hsettled.founded.created,
      hsettled.founded.published, hsettled.name, accessKey_detailsOf _ _, hsettled.episodes⟩

def constant : Promise where
  tells call answer := answer = login call
  catalog := [⟨"group", readGroupName, []⟩]

def morning : Haven := ⟨applicant, [], ⟨1717200000, 0⟩, [], [], []⟩

theorem constant_resolves : constant.Resolves applicant := by
  intro copy
  have hread : Authentication.Login.read (Text.encode "\x7b\"api_token\":\"secret\"\x7d") =
      .ok ⟨some "secret", none, none⟩ := by decide +kernel
  apply Work.under_bind.mpr
  refine Work.under_ask_known (fun _ => Iff.rfl) ?_
  refine Work.under_ask_known (fun _ => Iff.rfl) ?_
  apply Work.under_bind.mpr
  refine Work.under_ask_known (fun _ => Iff.rfl) ?_
  change Script.Under _ _ ((Work.ofExcept (Authentication.Login.read (Text.encode _)) :
    Work Authentication.interface Credentials _) copy) ()
  rw [hread]
  exact ⟨"secret", rfl⟩

theorem rounds_converge_applicant : Ready constant morning ∧
    ∃ episodes haven, episodes.length = 3 ∧ Rounds constant habits morning episodes haven ∧
      ∃ token details first second,
        haven.created = [token] ∧ haven.published = [details] ∧
        first.externalName? = some token.id ∧
        details.get? accessKeyName = some (Text.encode token.id) ∧
        episodes =
          [⟨.finished (.requeue habits.pollInterval), second⟩,
           ⟨.finished (.requeue habits.pollInterval), second⟩,
           ⟨.finished (.requeue habits.shortWait), first⟩] := by
  have hready : Ready constant morning := by
    refine ⟨by decide, rfl, by decide, by decide, constant_resolves, by decide, by decide⟩
  obtain ⟨hpossible, hconverges⟩ := rounds_converge habits hready
  obtain ⟨episodes, haven, hlength, hrounds⟩ := hpossible 3
  obtain ⟨token, request, details, first, second, -, hcreated, hpublished, hname, hkey, hsame⟩ :=
    hconverges 2 episodes haven hrounds hlength
  exact ⟨hready, episodes, haven, hlength, hrounds, token, details, first, second, hcreated,
    hpublished, hname, hkey, hsame⟩

end Issuance

end BucketKeys
