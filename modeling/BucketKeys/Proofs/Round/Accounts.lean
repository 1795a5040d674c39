import BucketKeys.Proofs.Pass.Accounts
import BucketKeys.Proofs.Round.Ending

/-!
What a round counts, next to what it returns and to what the listener at its client is told.
-/

namespace BucketKeys

namespace Moment

def event? : Moment I → Option Event
  | counted event => some event
  | _ => none

end Moment

namespace Round

open Pass (Overheard Remark Notes Fair)

variable {R S : Interface} {G : Type}

def keeping (ledger : Ledger (Pass.interface R) G) : Ledger (interface R) G where
  relies moment := ∀ act, told moment = some act → ledger.relies act
  enter moment books := (told moment).elim books fun act => ledger.enter act books

/-- A pass under a deadline leaves books that are in order, whether or not it comes to its end. -/
theorem yields_upTo {ledger : Ledger (Pass.interface R) G} (deadline : Time.Instant) (late : Fault)
    {stops : G → Prop} {ends : G → σ → Except Fault α → Prop}
    {script : Script (Pass.interface R) σ (Except Fault α)} {books : G}
    (haudits : script.Audits ledger stops ends books) :
    (upTo deadline late script).Yields (keeping ledger)
      (fun books held result => ends books held result ∨ result = .error late ∧ stops books)
      books := by
  induction script generalizing books with
  | done held result => exact .inl haudits
  | ask held call resume ih =>
      rw [upTo]
      intro answer hrelied
      cases (answer : Option (Pass.Answer call)) with
      | some answer => exact ih answer (haudits.2 answer (hrelied _ rfl))
      | none => exact .inr ⟨rfl, haudits.1 (hrelied _ rfl)⟩
  | clock resume ih => exact fun now hrelied => ih now (haudits now (hrelied _ rfl))
  | count event next ih => exact ih haudits

def before {call : Pass.Call R} (deadline : Time.Instant)
    (carried : Carried (Pass.interface S) (Pass.Answer call)) :
    Carried (interface S) (Answer (.within deadline call)) where
  call := Call.within deadline carried.call
  back := Option.map carried.back
  forth := Option.map carried.forth
  back_forth answer := by
    cases (answer : Option (Pass.Answer call)) with
    | none => rfl
    | some answer => exact congrArg some (carried.back_forth answer)
  forth_back answer := by
    cases (answer : Option (Pass.Answer carried.call)) with
    | none => rfl
    | some answer => exact congrArg some (carried.forth_back answer)

def muffling (muffler : Muffler (Pass.interface R) (Pass.interface S)) :
    Muffler (interface R) (interface S)
  | .admission => .inr (.same (J := interface S) Call.admission)
  | .within deadline call =>
    match muffler call with
    | .inl answer => .inl (some answer)
    | .inr carried => .inr (before deadline carried)
  | .recordFailure resource => .inr (.same (J := interface S) (Call.recordFailure resource))

theorem muffling_spot {muffler : Muffler (Pass.interface R) (Pass.interface S)}
    {call : Pass.Call R} {answer : Pass.Answer call} (hspot : muffler call = .inl answer)
    (deadline : Time.Instant) : muffling muffler (.within deadline call) = .inl (some answer) := by
  simp only [muffling, hspot]

theorem muffling_carried {muffler : Muffler (Pass.interface R) (Pass.interface S)}
    {call : Pass.Call R} {carried : Carried (Pass.interface S) (Pass.Answer call)}
    (hcarries : muffler call = .inr carried) (deadline : Time.Instant) :
    muffling muffler (.within deadline call) = .inr (before deadline carried) := by
  simp only [muffling, hcarries]

theorem muffled_upTo (muffler : Muffler (Pass.interface R) (Pass.interface S))
    (deadline : Time.Instant) (late : Fault)
    (script : Script (Pass.interface R) σ (Except Fault α)) :
    (upTo deadline late script).muffled (muffling muffler) =
      upTo deadline late (script.muffled muffler) := by
  induction script with
  | done held result => rfl
  | ask held call resume ih =>
      rw [upTo]
      cases hkind : muffler call with
      | inl answer =>
          rw [Script.muffled_ask_spot hkind]
          refine (Script.muffled_ask_spot (muffling_spot hkind deadline)).trans ?_
          exact ih answer
      | inr carried =>
          rw [Script.muffled_ask_carried hkind, upTo]
          refine (Script.muffled_ask_carried (muffling_carried hkind deadline)).trans
            (congrArg (Script.ask held _) (funext fun answer => ?_))
          cases (answer : Option (Pass.Answer carried.call)) with
          | none => rfl
          | some answer => exact ih (carried.back answer)
  | clock resume ih => exact congrArg Script.clock (funext ih)
  | count event next ih => exact congrArg (Script.count event) ih

theorem muffled_conclude (muffler : Muffler (Pass.interface R) (Pass.interface S))
    (resource : Credentials) (result : Except Fault Action) :
    (conclude (R := R) resource result).muffled (muffling muffler) = conclude resource result := by
  cases result with
  | ok action => rfl
  | error fault =>
      simp only [conclude]
      cases fault.isFatal <;> rfl

theorem muffled_run (connector : Pass.Connector R) (options : PassOptions)
    (resource : Credentials) :
    (run connector.overheard options resource).muffled (muffling Pass.muffler) =
      run connector options resource := by
  refine congrArg (Script.count _) (congrArg (Script.ask resource _) (funext ?_))
  intro (delay : Time.Span)
  change Script.muffled _ (if delay = .zero then _ else _) = if delay = .zero then _ else _
  split
  · refine congrArg Script.clock (funext fun start => ?_)
    have hpass : (Pass.run connector.overheard options resource).muffled Pass.muffler =
        Pass.run connector options resource :=
      congrFun (Pass.muffled_run connector options) resource
    rw [Script.muffled_bind, muffled_upTo, hpass]
    refine congrArg (Script.bind _) (funext fun held => funext fun result => ?_)
    exact congrArg Script.clock (funext fun stop =>
      congrArg (Script.count _) (muffled_conclude _ held result))
  · rfl

theorem heeds_told {moment : Moment (interface (Overheard R))}
    (hheeded : (muffling Pass.muffler).Heeds moment) (act : Moment (Pass.interface (Overheard R)))
    (hheard : told moment = some act) : Pass.muffler.Heeds act := by
  intro call answer hput hspot
  cases moment with
  | asked outer given =>
      cases outer with
      | admission => cases hheard
      | recordFailure resource =>
          cases hheard
          cases hput
          cases hspot
      | within deadline inner =>
          -- Whether it was answered in time or not, the question is the one that is muffled.
          cases (given : Option (Pass.Answer inner)) with
          | none =>
              cases hheard
              cases hput
              cases hheeded _ _ rfl (muffling_spot hspot deadline)
          | some given =>
              cases hheard
              cases hput
              cases hheeded _ _ rfl (muffling_spot hspot deadline)
              rfl
  | lost outer =>
      cases outer with
      | admission => cases hheard
      | recordFailure resource =>
          cases hheard
          cases hput
          cases hspot
      | within deadline inner =>
          cases hheard
          cases hput
          cases hheeded _ _ rfl (muffling_spot hspot deadline)
  | read now =>
      cases hheard
      cases hput
  | counted event =>
      cases hheard
      cases hput

namespace Outcome

def result : Outcome → Except Fault Action
  | limited delay => .ok (.requeue delay)
  | finished action => .ok action
  | failed fault => .error fault

def failsWith (label : String) : Outcome → Bool
  | failed fault => fault.label == label
  | _ => false

end Outcome

def said? : Moment (interface (Overheard R)) → Option Remark
  | .asked (.within _ (.remote (.inr said))) answer =>
      match (answer : Option Unit) with
      | some _ => some said
      | none => none
  | _ => none

def notes (moments : List (Moment (interface (Overheard R)))) : Notes :=
  ⟨moments.filterMap Moment.event?, moments.filterMap said?⟩

theorem total_hearing (moments : List (Moment (interface (Overheard R)))) :
    (keeping Pass.hearing).total ⟨[], []⟩ moments = notes moments := by
  induction moments with
  | nil => rfl
  | cons moment before ih =>
      change (told moment).elim _ (fun act => Pass.hearing.enter act _) = _
      rw [← Ledger.total, ih]
      cases moment with
      | asked outer answer =>
          cases outer with
          | admission | recordFailure => rfl
          | within deadline call =>
              cases (answer : Option (Pass.Answer call)) with
              | none => cases call with
                | remote call => cases call <;> rfl
                | _ => rfl
              | some answer => cases call with
                | remote call => cases call <;> rfl
                | _ => rfl
      | lost outer => cases outer <;> rfl
      | read | counted => rfl

/-- The counts of a round are those of its outcome, but for a requeue that it had come to when it
was given up, if disconnecting may be slow. -/
structure Balanced (slow : Prop) (options : PassOptions) (notes : Notes) (outcome : Outcome) :
    Prop where
  passes : notes.events.count .passStarted = 1
  admissions : notes.events.count .rateLimited + notes.events.countP (·.isDuration) = 1
  failures (label : String) :
    notes.events.count (.passFailed label) = if outcome.failsWith label then 1 else 0
  created : notes.events.count .resourceCreated = notes.remarks.count .created
  deleted : notes.events.count .resourceDeleted = notes.remarks.count .deleted
  requeues : notes.events.countP (·.isRequeue) = Pass.dueOf outcome.result ∨
    slow ∧ notes.events.countP (·.isRequeue) = 1 ∧
      outcome = .failed (.timeout options.timeout) ∧ .leaving ∈ notes.remarks

def Outcome.failures : Outcome → List Event
  | failed fault => [.passFailed fault.label]
  | _ => []

theorem notes_clocked (start stop : Time.Instant)
    (pass : List (Moment (interface (Overheard R)))) :
    notes (clocked start stop pass) =
      ⟨.passTook (start.elapsed stop) :: ((notes pass).events ++ [.passStarted]),
        (notes pass).remarks⟩ := by
  simp [notes, clocked, opening, List.filterMap_cons, Moment.event?, said?]

theorem notes_concluded {held copy : Credentials} {result : Except Fault Action}
    {conclusion : List (Moment (interface (Overheard R)))} {outcome : Outcome}
    (hconcluded : Concluded held result conclusion copy outcome)
    (before : List (Moment (interface (Overheard R)))) :
    outcome.result = result ∧ notes (conclusion ++ before) =
      ⟨outcome.failures ++ (notes before).events, (notes before).remarks⟩ := by
  cases hconcluded with
  | finished action => exact ⟨rfl, rfl⟩
  | fatal fatal => exact ⟨rfl, rfl⟩
  | recorded hmendable now answer => exact ⟨rfl, rfl⟩

theorem count_outer {notes : Notes} {due : Nat} (hfair : Fair due notes) {event : Event}
    (houter : event.isOfPass = false) : notes.events.count event = 0 := by
  refine List.count_eq_zero.mpr fun hmember => ?_
  rw [hfair.inner event hmember] at houter
  cases houter

theorem countP_isDuration {notes : Notes} {due : Nat} (hfair : Fair due notes) :
    notes.events.countP (·.isDuration) = 0 := by
  refine List.countP_eq_zero.mpr fun event hmember hlasts => ?_
  have hinner := hfair.inner event hmember
  cases event with
  | passTook span => cases hinner
  | _ => cases hlasts

theorem fair_of_reaches {connector : Pass.Connector R} {options : PassOptions} {slow : Prop}
    {resource held : Credentials} {result : Except Fault Action} {deadline : Time.Instant}
    {late : Fault} {pass : List (Moment (interface (Overheard R)))} (hsilent : connector.Silent)
    (hleaves : connector.Leaves slow)
    (hreached : (upTo deadline late (Pass.run connector.overheard options resource)).Reaches pass
      (some (.done held result)))
    (hheeded : ∀ moment ∈ pass, (muffling Pass.muffler).Heeds moment) :
    Fair (Pass.dueOf result) (notes pass) ∨
      slow ∧ Fair 1 (notes pass) ∧ result = .error late ∧ .leaving ∈ (notes pass).remarks := by
  have hfresh : Fair 0 ⟨[], []⟩ := ⟨rfl, rfl, rfl, by rintro _ ⟨⟩⟩
  have hyields := yields_upTo deadline late
    (Pass.audits_run hsilent hleaves options hfresh resource)
  have hended := hyields.done hreached fun moment hmember act hheard =>
    heeds_told (hheeded moment hmember) act hheard
  rw [total_hearing] at hended
  obtain hfair | ⟨rfl, hfair | ⟨htakes, hfair, htold⟩⟩ := hended
  · exact .inl hfair
  · exact .inl hfair
  · exact .inr ⟨htakes, hfair, rfl, htold⟩

section

variable {outcome : Outcome} {notes : Notes} {due : Nat} (span : Time.Span)

def counting (outcome : Outcome) (span : Time.Span) (events : List Event) : List Event :=
  outcome.failures ++ .passTook span :: (events ++ [.passStarted])

theorem count_counting (outcome : Outcome) (events : List Event) (event : Event) :
    (counting outcome span events).count event =
      events.count event + (counting outcome span []).count event := by
  simp only [counting, List.count_append, List.count_cons, List.count_nil]
  omega

theorem countP_counting (outcome : Outcome) (events : List Event) (p : Event → Bool) :
    (counting outcome span events).countP p =
      events.countP p + (counting outcome span []).countP p := by
  simp only [counting, List.countP_append, List.countP_cons, List.countP_nil]
  omega

theorem balanced_of_fair {slow : Prop} {options : PassOptions} (hfair : Fair due notes)
    (hrequeues : due = Pass.dueOf outcome.result ∨ slow ∧ due = 1 ∧
      outcome = .failed (.timeout options.timeout) ∧ .leaving ∈ notes.remarks) :
    Balanced slow options ⟨counting outcome span notes.events, notes.remarks⟩ outcome := by
  have hrequeued : (counting outcome span notes.events).countP (·.isRequeue) = due := by
    rw [countP_counting, hfair.requeued]
    cases outcome <;> rfl
  refine ⟨?_, ?_, fun label => ?_, ?_, ?_, by rwa [hrequeued]⟩
  · rw [count_counting, count_outer hfair rfl]
    cases outcome <;> rfl
  · rw [count_counting, count_outer hfair rfl, countP_counting, countP_isDuration hfair]
    cases outcome <;> rfl
  · rw [count_counting, count_outer hfair rfl]
    cases outcome with
    | limited delay | finished action => rfl
    | failed fault => simp [counting, Outcome.failures, Outcome.failsWith, List.count_cons]
  · rw [count_counting, hfair.created]
    cases outcome <;> rfl
  · rw [count_counting, hfair.deleted]
    cases outcome <;> rfl

end

theorem balanced_of_reaches {connector : Pass.Connector R} {options : PassOptions}
    {resource held : Credentials} {outcome : Outcome} {slow : Prop}
    {moments : List (Moment (interface (Overheard R)))} (hsilent : connector.Silent)
    (hleaves : connector.Leaves slow)
    (hreached : (run connector.overheard options resource).Reaches moments
      (some (.done held outcome)))
    (hheeded : ∀ moment ∈ moments, (muffling Pass.muffler).Heeds moment) :
    Balanced slow options (notes moments) outcome := by
  cases ending_of_reaches hreached with
  | limited hpositive =>
      exact ⟨rfl, rfl, fun label => rfl, rfl, rfl, .inl rfl⟩
  | @passed start stop pass conclusion held copy result outcome passed hconcluded =>
      have hinside : ∀ moment ∈ pass, (muffling Pass.muffler).Heeds moment := fun moment hmember =>
        hheeded moment (by simp [clocked, hmember])
      obtain ⟨rfl, hnoted⟩ := notes_concluded hconcluded (clocked start stop pass)
      rw [hnoted, notes_clocked]
      obtain hfair | ⟨htakes, hfair, hlate, htold⟩ := fair_of_reaches hsilent hleaves passed hinside
      · exact balanced_of_fair _ hfair (.inl rfl)
      · refine balanced_of_fair _ hfair (.inr ⟨htakes, rfl, ?_, htold⟩)
        cases outcome with
        | limited delay | finished action => cases hlate
        | failed fault => exact congrArg Outcome.failed (Except.error.inj hlate)

end Round

end BucketKeys
