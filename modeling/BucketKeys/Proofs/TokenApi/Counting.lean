import BucketKeys.Proofs.TokenApi.Verdict

/-!
What the calls of the token service leave in the metrics, next to what their callers get.
-/

namespace BucketKeys

namespace Metrics

/-- How often an operation was counted with an outcome. -/
def calls (operation outcome : String) (metrics : Metrics) : Nat :=
  ((metrics.apiCalls.get? operation).bind (·.get? outcome)).getD 0

theorem getD_bump (outcome label : String) (counts : Dictionary Nat) :
    ((bump outcome counts).get? label).getD 0 =
      (counts.get? label).getD 0 + if outcome = label then 1 else 0 := by
  rw [bump, Dictionary.get?_insert]
  split
  · rename_i same
    subst same
    rfl
  · rfl

theorem calls_recordCall (operation outcome other label : String) (seconds : Float)
    (metrics : Metrics) :
    (metrics.recordCall operation outcome seconds).calls other label =
      metrics.calls other label + if operation = other ∧ outcome = label then 1 else 0 := by
  simp only [calls, recordCall, Dictionary.get?_insert]
  by_cases hsame : operation = other
  · subst hsame
    simp only [if_true, Option.bind_some, getD_bump, true_and]
    cases metrics.apiCalls.get? operation <;> rfl
  · simp [hsame]

end Metrics

namespace TokenApi

/-- A call, what became of its request, and how long that took. -/
structure Exchange where
  call : Call
  response : Option Response
  seconds : Float

namespace Exchange

def told (exchange : Exchange) (metrics : Metrics) : String :=
  Call.outcome (exchange.call.run exchange.response exchange.seconds metrics).1

def recorded (exchange : Exchange) : String :=
  Call.outcome (exchange.call.conclude exchange.response)

/-- The response says that the call succeeded, without the result that an answer is made of. -/
def Hollow (exchange : Exchange) : Prop :=
  exchange.call.NeedsResult ∧ ∃ response json envelope, exchange.response = some response ∧
    (200 ≤ response.status ∧ response.status < 300) ∧ Json.read? response.body = some json ∧
      Envelope.ofJson? exchange.call.payload? json = some envelope ∧ envelope.success = true ∧
        ¬ HasResult json

def along (exchanges : List Exchange) (metrics : Metrics) : Metrics :=
  exchanges.foldl (fun metrics exchange =>
    (exchange.call.run exchange.response exchange.seconds metrics).2) metrics

def counts (operation outcome : String) (exchange : Exchange) : Bool :=
  exchange.call.segments?.isSome && exchange.call.operation == operation &&
    exchange.recorded == outcome

theorem calls_run (operation outcome : String) (exchange : Exchange) (metrics : Metrics) :
    (exchange.call.run exchange.response exchange.seconds metrics).2.calls operation outcome =
      metrics.calls operation outcome +
        if exchange.counts operation outcome = true then 1 else 0 := by
  unfold Call.run
  cases hsegments : exchange.call.segments? with
  | none => simp [counts, hsegments]
  | some path => simp [counts, hsegments, recorded, Metrics.calls_recordCall]

theorem calls_along (operation outcome : String) (exchanges : List Exchange) (metrics : Metrics) :
    (along exchanges metrics).calls operation outcome =
      metrics.calls operation outcome + exchanges.countP (counts operation outcome) := by
  induction exchanges generalizing metrics with
  | nil => rfl
  | cons exchange later ih =>
      refine (ih _).trans ?_
      rw [calls_run, List.countP_cons]
      omega

variable {exchange : Exchange}

theorem told_of_counted (hcounted : exchange.call.segments?.isSome = true) (metrics : Metrics) :
    exchange.told metrics =
      Call.outcome (exchange.call.conclude exchange.response >>= exchange.call.answer) := by
  obtain ⟨path, hsegments⟩ := Option.isSome_iff_exists.mp hcounted
  rw [told, Call.run, hsegments]

theorem conclude_ok {envelope : Envelope exchange.call.Payload} :
    exchange.call.conclude exchange.response = .ok envelope ↔
      ∃ response json, exchange.response = some response ∧
        (200 ≤ response.status ∧ response.status < 300) ∧ Json.read? response.body = some json ∧
          Envelope.ofJson? exchange.call.payload? json = some envelope ∧ envelope.success =
              true := by
  cases harrived : exchange.response with
  | none => simp [Call.conclude]
  | some response => simp [Call.conclude, Call.envelope_ok, Call.isSuccess_iff]

theorem hollow_iff : exchange.Hollow ↔ ∃ envelope,
    exchange.call.conclude exchange.response = .ok envelope ∧
      ¬ ∃ answer, exchange.call.answer envelope = .ok answer := by
  simp only [conclude_ok, Call.answer_ok, Classical.not_imp]
  constructor
  · rintro ⟨hneeds, response, json, envelope, harrived, hstatus, hread, hdecoded, haccepted, hlacks⟩
    exact ⟨envelope, ⟨response, json, harrived, hstatus, hread, hdecoded, haccepted⟩, hneeds,
      mt (Envelope.result_isSome hdecoded).mp hlacks⟩
  · rintro ⟨envelope,
        ⟨response, json, harrived, hstatus, hread, hdecoded, haccepted⟩, hneeds, hlacks⟩
    exact ⟨hneeds, response, json, envelope, harrived, hstatus, hread, hdecoded, haccepted,
      mt (Envelope.result_isSome hdecoded).mpr hlacks⟩

theorem recorded_of_full (hcounted : exchange.call.segments?.isSome = true)
    (hfull : ¬ exchange.Hollow) (metrics : Metrics) :
    exchange.recorded = exchange.told metrics := by
  rw [told_of_counted hcounted, recorded]
  rw [hollow_iff, not_exists] at hfull
  cases hconcluded : exchange.call.conclude exchange.response with
  | error failure => rfl
  | ok envelope =>
      obtain ⟨answer, hanswered⟩ := Classical.not_not.mp fun hnone => hfull envelope
          ⟨hconcluded, hnone⟩
      change "success" = Call.outcome (exchange.call.answer envelope)
      rw [hanswered]
      rfl

/-- The call is counted before the result is missed. -/
theorem recorded_of_hollow (hcounted : exchange.call.segments?.isSome = true)
    (hhollow : exchange.Hollow) (metrics : Metrics) :
    exchange.recorded = "success" ∧ exchange.told metrics = "transient" := by
  obtain ⟨envelope, hconcluded, hunanswered⟩ := hollow_iff.mp hhollow
  rw [told_of_counted hcounted, recorded, hconcluded]
  refine ⟨rfl, ?_⟩
  change Call.outcome (exchange.call.answer envelope) = _
  cases hanswered : exchange.call.answer envelope with
  | ok answer => exact absurd ⟨answer, hanswered⟩ hunanswered
  | error failure =>
      rw [Call.answer_error hanswered]
      rfl

/-- Every call with a path is counted once under its operation, and no other call is. The outcome
that is counted is the one that the caller gets, but for a call that misses the result of a response
that says success. -/
theorem calls_counted (exchanges : List Exchange) (metrics : Metrics) :
    (∀ operation outcome, (along exchanges metrics).calls operation outcome =
      metrics.calls operation outcome + exchanges.countP fun exchange =>
        exchange.call.segments?.isSome && exchange.call.operation == operation &&
          exchange.recorded == outcome) ∧
    (∀ exchange ∈ exchanges, exchange.call.segments?.isSome = true → ∀ before,
      (exchange.recorded = exchange.told before ↔ ¬ exchange.Hollow) ∧
        (exchange.Hollow → exchange.recorded = "success" ∧ exchange.told before = "transient")) ∧
    ∀ (call : Call) base apiToken request, call.request? base apiToken = some request →
      call.segments?.isSome = true := by
  refine ⟨fun operation outcome => calls_along operation outcome exchanges metrics, ?_, ?_⟩
  · intro exchange _ hcounted before
    refine ⟨⟨fun hsame hhollow => ?_, fun hfull => recorded_of_full hcounted hfull before⟩,
      fun hhollow => recorded_of_hollow hcounted hhollow before⟩
    obtain ⟨success, transient⟩ := recorded_of_hollow hcounted hhollow before
    rw [success, transient] at hsame
    exact absurd hsame (by decide)
  · intro call base apiToken request hsent
    obtain ⟨path, hsegments, -⟩ := Option.bind_eq_some_iff.mp hsent
    exact Option.isSome_of_eq_some hsegments

def hollowLookup : Exchange where
  call := .getToken "tok-1"
  response := some ⟨200,
    Text.encode "\x7b\"success\":true,\"errors\":[],\"messages\":[],\"result\":null\x7d"⟩
  seconds := 0

def deniedLookup : Exchange where
  call := .getToken "tok-1"
  response := some Call.denial
  seconds := 0

theorem calls_counted_lookups :
    (along [hollowLookup, deniedLookup] .zero).calls "get_token" "success" = 1 ∧
      deniedLookup.recorded = deniedLookup.told .zero := by
  obtain ⟨hcounted, hagree, -⟩ := calls_counted [hollowLookup, deniedLookup] .zero
  refine ⟨(hcounted _ _).trans (by decide +kernel), ?_⟩
  refine (hagree deniedLookup (by simp) rfl .zero).1.mpr ?_
  rintro ⟨-, response, -, -, ⟨⟩, hstatus, -⟩
  exact absurd hstatus (by decide)

/-- The caller gets a failure, and a success is counted. -/
theorem hollow_counted_success :
    hollowLookup.told .zero = "transient" ∧
      (along [hollowLookup] .zero).calls "get_token" "success" = 1 ∧
        (along [hollowLookup] .zero).calls "get_token" "transient" = 0 := by
  decide +kernel

end Exchange

end TokenApi

end BucketKeys
