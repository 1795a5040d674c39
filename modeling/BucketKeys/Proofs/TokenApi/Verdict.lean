import BucketKeys.Proofs.Time.Stamp
import BucketKeys.TokenApi.Client

/-!
What the responses of the token service come to: which of them end a call well, and which failure
each of the others is taken for.
-/

namespace BucketKeys

namespace Text

open Time.Rfc3339 (digitsValue digitsValue_concat isDigit_digitChar toNat_digitChar)

theorem digitsValue_decimalChars (value : Nat) : digitsValue (decimalChars value) = value := by
  fun_induction decimalChars value with
  | case1 value hsmall => simp [digitsValue, toNat_digitChar hsmall]
  | case2 value hlarge ih =>
      rw [digitsValue_concat, ih, toNat_digitChar (Nat.mod_lt value (by decide))]
      omega

theorem isDigit_of_mem_decimalChars {value : Nat} {c : Char} (hmember : c ∈ decimalChars value) :
    c.isDigit = true := by
  fun_induction decimalChars value with
  | case1 value hsmall =>
      rw [List.mem_singleton.mp hmember]
      exact isDigit_digitChar hsmall
  | case2 value hlarge ih =>
      rcases List.mem_append.mp hmember with hearlier | hlast
      · exact ih hearlier
      · rw [List.mem_singleton.mp hlast]
        exact isDigit_digitChar (Nat.mod_lt value (by decide))

theorem decimalChars_append_inj {first second : Nat} {rest other : List Char}
    (hends : ∀ c ∈ rest.head?, c.isDigit = false)
    (hotherEnds : ∀ c ∈ other.head?, c.isDigit = false)
    (hsame : decimalChars first ++ rest = decimalChars second ++ other) :
    first = second ∧ rest = other := by
  have hdigits (value : Nat) {tail : List Char} (hends : ∀ c ∈ tail.head?, c.isDigit = false) :
      (decimalChars value ++ tail).takeWhile Char.isDigit = decimalChars value := by
    rw [List.takeWhile_append_of_pos fun c hmember => isDigit_of_mem_decimalChars hmember]
    cases tail with
    | nil => simp
    | cons c tail => simp [hends c rfl]
  have hnumber : decimalChars first = decimalChars second := by
    rw [← hdigits first hends, hsame, hdigits second hotherEnds]
  refine ⟨?_, List.append_cancel_left (hnumber ▸ hsame)⟩
  rw [← digitsValue_decimalChars first, hnumber, digitsValue_decimalChars]

end Text

namespace TokenApi

namespace Failure

def told (messages : List String) : String :=
  if messages.isEmpty then "" else ": " ++ ", ".intercalate messages

theorem message_ofResponse (status : Nat) (messages : List String) :
    (ofResponse status messages).message =
      "HTTP status " ++ (Text.decimal status ++ told messages) := by
  rw [ofResponse, message_classify, told]
  split
  · rw [String.append_empty]
  · simp only [String.append_assoc]

theorem told_head (messages : List String) :
    ∀ c ∈ (told messages).toList.head?, c.isDigit = false := by
  intro c hmember
  unfold told at hmember
  split at hmember
  · cases hmember
  · simp only [String.toList_append] at hmember
    cases hmember
    rfl

theorem message_ofResponse_inj {status other : Nat} {messages others : List String}
    (hsame : (ofResponse status messages).message = (ofResponse other others).message) :
    status = other ∧ told messages = told others := by
  simp only [message_ofResponse, String.append_right_inj] at hsame
  have hchars := congrArg String.toList hsame
  simp only [String.toList_append, Text.decimal, String.toList_ofList] at hchars
  obtain ⟨hnumber, hrest⟩ := Text.decimalChars_append_inj (told_head messages)
      (told_head others) hchars
  exact ⟨hnumber, String.toList_inj.mp hrest⟩

theorem told_eq_empty {messages : List String} : told messages = "" ↔ messages = [] := by
  cases messages with
  | nil => simp [told]
  | cons first rest => simp [told]

theorem told_eq_singleton {messages : List String} {message : String}
    (hplain : ',' ∉ message.toList) : told messages = told [message] ↔ messages = [message] := by
  refine ⟨fun hsame => ?_, congrArg told⟩
  cases messages with
  | nil => simp [told] at hsame
  | cons first rest =>
      simp only [told, List.isEmpty_cons, Bool.false_eq_true, if_false, String.append_right_inj,
        String.intercalate_singleton] at hsame
      cases rest with
      | nil => rw [String.intercalate_singleton] at hsame; rw [hsame]
      | cons second rest =>
          rw [String.intercalate_cons_cons] at hsame
          exact absurd (by simp [← hsame]) hplain

theorem mem_notFoundMessages_ofResponse (status : Nat) (messages : List String) :
    (ofResponse status messages).message ∈ notFoundMessages ↔
      status = 404 ∧ (messages = [] ∨ messages = ["Could not find token"]) := by
  have hbare : (ofResponse 404 []).message = "HTTP status 404" := by decide +kernel
  have hnamed : (ofResponse 404 ["Could not find token"]).message =
      "HTTP status 404: Could not find token" := by decide +kernel
  have hother : (ofResponse status messages).message ≠ "could not find token" := by
    intro hsame
    rw [message_ofResponse] at hsame
    have hfirst := congrArg (·.toList.head?) hsame
    simp at hfirst
  rw [notFoundMessages, List.mem_cons, List.mem_cons, List.mem_singleton, ← hbare, ← hnamed]
  refine ⟨?_, ?_⟩
  · rintro (hsame | hsame | hsame)
    · obtain ⟨rfl, hwords⟩ := message_ofResponse_inj hsame
      exact ⟨rfl, .inr ((told_eq_singleton (by decide)).mp hwords)⟩
    · obtain ⟨rfl, hwords⟩ := message_ofResponse_inj hsame
      exact ⟨rfl, .inl (told_eq_empty.mp hwords)⟩
    · exact absurd hsame hother
  · rintro ⟨rfl, rfl | rfl⟩
    · exact .inr (.inl rfl)
    · exact .inl rfl

/-- The failures that a status of its own tells. -/
def Rejects (status : Nat) : Prop := status = 400 ∨ status = 401 ∨ status = 403

instance (status : Nat) : Decidable (Rejects status) := inferInstanceAs (Decidable (_ ∨ _ ∨ _))

theorem kind_classify (status : Nat) (message : String) :
    (classify (some status) message).kind =
      if message ∈ notFoundMessages then .notFound
      else if Rejects status then .fatal
      else .transient := by
  unfold classify
  by_cases hmissing : message ∈ notFoundMessages
  · simp [hmissing]
  · simp only [List.contains_iff_mem, hmissing, if_false]
    split <;> simp_all [Rejects]

end Failure

def HasResult (json : Json) : Prop :=
  ∃ record value, Json.Record.ofJson? ["success", "errors", "result"] json = some record ∧
    record.find? "result" = some value ∧ value ≠ .null

theorem Envelope.result_isSome {result : Json.Decoder α} {json : Json} {envelope : Envelope α}
    (hdecoded : Envelope.ofJson? result json = some envelope) :
    envelope.result.isSome = true ↔ HasResult json := by
  simp only [Envelope.ofJson?, Option.bind_eq_bind, Option.bind_eq_some_iff] at hdecoded
  obtain ⟨record, hrecorded, success, -, errors, -, found, hnullable, same⟩ := hdecoded
  cases same
  unfold Json.Record.nullable at hnullable
  cases hpresent : record.find? "result" with
  | none =>
      rw [hpresent] at hnullable
      have hmissing : found = none := by
        by_cases hpositional : record.positional = true <;> simp_all
      rw [hmissing]
      refine ⟨by rintro ⟨⟩, ?_⟩
      rintro ⟨other, value, same, hlookup, -⟩
      cases hrecorded.symm.trans same
      cases hpresent.symm.trans hlookup
  | some value =>
      rw [hpresent] at hnullable
      have null : found.isSome = true ↔ value ≠ .null := by
        cases value with
        | null => cases hnullable; simp
        | _ =>
            obtain ⟨payload, -, rfl⟩ := Option.map_eq_some_iff.mp hnullable
            simp
      rw [null]
      refine ⟨fun some => ⟨record, value, hrecorded, hpresent, some⟩, ?_⟩
      rintro ⟨other, same, hequal, hlookup, some⟩
      cases hrecorded.symm.trans hequal
      cases hpresent.symm.trans hlookup
      exact some

namespace Call

open Failure (Rejects)

/-- The answer to the call is made of a result. -/
def NeedsResult : Call → Prop
  | createToken _ => True
  | getToken _ => True
  | _ => False

def Accepts (call : Call) (response : Response) : Prop :=
  (200 ≤ response.status ∧ response.status < 300) ∧
    ∃ json envelope, Json.read? response.body = some json ∧
      Envelope.ofJson? call.payload? json = some envelope ∧ envelope.success = true ∧
        (call.NeedsResult → HasResult json)

/-- The response says that there is no such token. -/
def Denies (response : Response) : Prop :=
  response.status = 404 ∧
    (messagesOf response.body = [] ∨ messagesOf response.body = ["Could not find token"])

instance (response : Response) : Decidable (Denies response) :=
  inferInstanceAs (Decidable (_ ∧ _))

/-- What a response is taken for that does not say that the call succeeded. -/
def verdict (response : Response) : FailureKind :=
  if Denies response then .notFound
  else if Rejects response.status then .fatal
  else .transient

theorem isSuccess_iff {status : Nat} : isSuccess status = true ↔ 200 ≤ status ∧ status < 300 := by
  simp [isSuccess]

theorem verdict_of_isSuccess {response : Response} (hsuccess : isSuccess response.status = true) :
    verdict response = .transient := by
  rw [isSuccess_iff] at hsuccess
  have hnoDenial : ¬ Denies response := fun hdenies => by have := hdenies.1; omega
  have hnoRejection : ¬ Rejects response.status := by unfold Rejects; omega
  rw [verdict, if_neg hnoDenial, if_neg hnoRejection]

theorem kind_of_isSuccess {status : Nat} (hsuccess : isSuccess status = true) {message : String}
    (hother : message ∉ Failure.notFoundMessages) :
    (Failure.classify (some status) message).kind = .transient := by
  rw [isSuccess_iff] at hsuccess
  have hnoRejection : ¬ Rejects status := by unfold Rejects; omega
  rw [Failure.kind_classify, if_neg hother, if_neg hnoRejection]

variable {call : Call} {response : Response}

theorem envelope_ok {envelope : Envelope call.Payload} :
    call.envelope response = .ok envelope ↔ isSuccess response.status = true ∧
      ∃ json, Json.read? response.body = some json ∧
        Envelope.ofJson? call.payload? json = some envelope ∧ envelope.success = true := by
  unfold Call.envelope
  cases hsuccess : isSuccess response.status with
  | false => simp
  | true =>
      simp only [Bool.not_true, Bool.false_eq_true, if_false, true_and]
      cases hread : Json.read? response.body with
      | none => simp
      | some json =>
          cases hdecoded : Envelope.ofJson? call.payload? json with
          | none => simp [hdecoded]
          | some found =>
              simp only [Option.bind_some, hdecoded]
              cases hpositive : found.success with
              | false =>
                  simp only [Bool.false_eq_true, if_false, reduceCtorEq, false_iff]
                  rintro ⟨other, hsame, hagain, hsuccess⟩
                  cases hsame
                  cases hdecoded.symm.trans hagain
                  simp [hpositive] at hsuccess
              | true =>
                  simp only [if_true, Except.ok.injEq]
                  refine ⟨?_, ?_⟩
                  · rintro rfl
                    exact ⟨json, rfl, hdecoded, hpositive⟩
                  · rintro ⟨other, hsame, hagain, -⟩
                    cases hsame
                    exact Option.some.inj (hdecoded.symm.trans hagain)

theorem kind_ofResponse (status : Nat) (messages : List String) :
    (Failure.ofResponse status messages).kind =
      if status = 404 ∧ (messages = [] ∨ messages = ["Could not find token"]) then .notFound
      else if Rejects status then .fatal
      else .transient := by
  have hkind := Failure.kind_classify status (Failure.ofResponse status messages).message
  have hsame : Failure.classify (some status) (Failure.ofResponse status messages).message =
      Failure.ofResponse status messages := rfl
  simp only [hsame, Failure.mem_notFoundMessages_ofResponse] at hkind
  exact hkind

theorem kind_of_envelope {failure : Failure} (hfails : call.envelope response = .error failure) :
    failure.kind = verdict response := by
  unfold Call.envelope at hfails
  cases hsuccess : isSuccess response.status with
  | false =>
      simp only [hsuccess, Bool.not_false, if_true, Except.error.injEq] at hfails
      rw [← hfails, kind_ofResponse]
      rfl
  | true =>
      rw [verdict_of_isSuccess hsuccess]
      simp only [hsuccess, Bool.not_true, Bool.false_eq_true, if_false] at hfails
      split at hfails
      · cases hfails
        exact kind_of_isSuccess hsuccess (by decide)
      · split at hfails
        · cases hfails
        · cases hfails
          refine kind_of_isSuccess hsuccess fun hmissing => ?_
          have hdenies := (Failure.mem_notFoundMessages_ofResponse _ _).mp hmissing
          rw [isSuccess_iff] at hsuccess
          omega

theorem answer_ok (envelope : Envelope call.Payload) :
    (∃ answer, call.answer envelope = .ok answer) ↔
      (call.NeedsResult → envelope.result.isSome = true) := by
  obtain ⟨success, errors, result⟩ := envelope
  cases call with
  | listPermissionGroups | deleteToken id => exact ⟨fun _ => False.elim, fun _ => ⟨_, rfl⟩⟩
  | createToken request | getToken id =>
      cases result with
      | none =>
          refine ⟨?_, fun hneeds => nomatch hneeds trivial⟩
          rintro ⟨answer, hsame⟩
          cases hsame
      | some token => exact ⟨fun _ _ => rfl, fun _ => ⟨token, rfl⟩⟩

theorem answer_error {envelope : Envelope call.Payload} {failure : Failure}
    (hfails : call.answer envelope = .error failure) : failure = resultless := by
  obtain ⟨success, errors, result⟩ := envelope
  cases call with
  | listPermissionGroups | deleteToken id => cases hfails
  | createToken request | getToken id =>
      cases result with
      | none =>
          cases hfails
          rfl
      | some token => cases hfails

theorem run_of_request {base : Url.Rooted} {apiToken : String} {request : Request}
    (hsent : call.request? base apiToken = some request) (response : Response) (seconds : Float)
    (metrics : Metrics) :
    (call.run (some response) seconds metrics).1 =
      (call.envelope response >>= fun envelope => call.answer envelope) := by
  unfold request? at hsent
  unfold run
  cases hsegments : call.segments? with
  | none =>
      rw [hsegments] at hsent
      cases hsent
  | some path => rfl

theorem kinds_of_verdict {failure : Failure} (hkind : failure.kind = verdict response) :
    (failure.kind = .notFound ↔ Denies response) ∧
      (failure.kind = .fatal ↔ Rejects response.status) ∧
        (failure.kind = .transient ↔ ¬ Denies response ∧ ¬ Rejects response.status) := by
  rw [hkind, verdict]
  by_cases hdenies : Denies response
  · have hnoRejection : ¬ Rejects response.status := by
      unfold Rejects
      have := hdenies.1
      omega
    simp [hdenies, hnoRejection]
  · by_cases hrejects : Rejects response.status <;> simp [hdenies, hrejects]

/-- A call whose request was sent succeeds exactly on the responses that say so, and fails on all
others as the response has it: only a denial counts as proof that a token is gone. -/
theorem response_settles_call {base : Url.Rooted} {apiToken : String} {request : Request}
    (sent : call.request? base apiToken = some request) (response : Response) (seconds : Float)
    (metrics : Metrics) :
    ((∃ answer, (call.run (some response) seconds metrics).1 = .ok answer) ↔
        call.Accepts response) ∧
      ∀ failure, (call.run (some response) seconds metrics).1 = .error failure →
        (failure.kind = .notFound ↔ Denies response) ∧
          (failure.kind = .fatal ↔ Rejects response.status) ∧
            (failure.kind = .transient ↔ ¬ Denies response ∧ ¬ Rejects response.status) := by
  rw [run_of_request sent]
  cases envelope : call.envelope response with
  | error failure =>
      refine ⟨⟨by rintro ⟨answer, ⟨⟩⟩, ?_⟩, ?_⟩
      · rintro ⟨hsuccess, json, found, hread, hdecoded, hpositive, -⟩
        have haccepted :=
            envelope_ok.mpr ⟨isSuccess_iff.mpr hsuccess, json, hread, hdecoded, hpositive⟩
        cases haccepted.symm.trans envelope
      · intro other hsame
        cases hsame
        exact kinds_of_verdict (kind_of_envelope envelope)
  | ok found =>
      obtain ⟨hsuccess, json, hread, hdecoded, hpositive⟩ := envelope_ok.mp envelope
      refine ⟨?_, ?_⟩
      · refine (answer_ok found).trans ?_
        rw [Envelope.result_isSome hdecoded]
        refine ⟨fun hresult => ⟨isSuccess_iff.mp hsuccess, json, found, hread, hdecoded, hpositive,
          hresult⟩, ?_⟩
        rintro ⟨-, other, -, hsame, -, -, hresult⟩
        cases hread.symm.trans hsame
        exact hresult
      · intro failure hfails
        refine kinds_of_verdict ?_
        rw [verdict_of_isSuccess hsuccess, answer_error hfails]
        rfl

def home : Url.Rooted :=
  ⟨"https", some ⟨"", .domain "api.example", none⟩, ["client", "v4"], none, none⟩

def denial : Response :=
  ⟨404, Text.encode "\x7b\"success\":false,\"errors\":[\x7b\"message\":\"Could not find
      token\"\x7d]\x7d"⟩

theorem response_settles_call_denied :
    ∃ request, (getToken "token").request? home "secret" = some request ∧
      ∃ failure, ((getToken "token").run (some denial) 0 .zero).1 = .error failure ∧
        failure.kind = .notFound := by
  have hsent : (getToken "token").request? home "secret" = some _ :=
    (request?_eq_some_iff rfl).mpr ⟨by decide +kernel, rfl⟩
  refine ⟨_, hsent, _, rfl, ?_⟩
  exact ((response_settles_call hsent denial 0 .zero).2 _ rfl).1.mpr (by decide +kernel)

end Call

end TokenApi

end BucketKeys
