import BucketKeys.Json.Read
import BucketKeys.Metrics.Basic
import BucketKeys.Settings.Basic
import BucketKeys.TokenApi.BaseUrl
import BucketKeys.TokenApi.Failure
import BucketKeys.TokenApi.Types
import BucketKeys.Url.Target

/-!
Calls of the token service: the request of each call, and what its response says. A call whose
request goes out is counted once, with the outcome told by the response.
-/

namespace BucketKeys.TokenApi

inductive Call where
  | listPermissionGroups
  | createToken (request : TokenRequest)
  | getToken (id : String)
  | deleteToken (id : String)
  deriving DecidableEq, Repr

structure Request where
  method : String
  target : String
  authorization : String
  contentType : Option String
  userAgent : String
  body : Option Json
  timeout : Time.Span

structure Response where
  status : Nat
  body : Bytes
  deriving DecidableEq, Repr

def userAgent : String := "r2-credentials-controller/0.1.0"

namespace Call

def operation : Call → String
  | listPermissionGroups => "list_permission_groups"
  | createToken _ => "create_token"
  | getToken _ => "get_token"
  | deleteToken _ => "delete_token"

def method : Call → String
  | listPermissionGroups => "GET"
  | createToken _ => "POST"
  | getToken _ => "GET"
  | deleteToken _ => "DELETE"

def body? : Call → Option Json
  | createToken request => some request.toJson
  | _ => none

/-- Identities that would lead to another path name no token. -/
def isIdentity (id : String) : Bool :=
  id != "" && id != "." && id != ".."

def segments? : Call → Option (List String)
  | listPermissionGroups => some ["user", "tokens", "permission_groups"]
  | createToken _ => some ["user", "tokens"]
  | getToken id => if isIdentity id then some ["user", "tokens", id] else none
  | deleteToken id => if isIdentity id then some ["user", "tokens", id] else none

def Payload : Call → Type
  | listPermissionGroups => List PermissionGroup
  | createToken _ => Token
  | getToken _ => Token
  | deleteToken _ => Json

def payload? : (call : Call) → Json.Decoder call.Payload
  | listPermissionGroups => Json.Decode.list PermissionGroup.ofJson?
  | createToken _ => Token.ofJson?
  | getToken _ => Token.ofJson?
  | deleteToken _ => Json.Decode.any

def Answer : Call → Type
  | listPermissionGroups => List PermissionGroup
  | createToken _ => Token
  | getToken _ => Token
  | deleteToken _ => Unit

/-- A text that a header line can hold: no controls but tabs. -/
def isHeaderText (text : String) : Bool :=
  text.toList.all fun c => c == '\t' || 0x20 ≤ c.toNat && c.toNat != 0x7F

def authorization (apiToken : String) : String :=
  "Bearer " ++ apiToken

def requestTo (url : Url.Rooted) (apiToken : String) (call : Call) : Request where
  method := call.method
  target := url.target
  authorization := authorization apiToken
  contentType := call.body?.map fun _ => "application/json"
  userAgent := userAgent
  body := call.body?
  timeout := .ofSeconds Settings.requestTimeoutSeconds

/-- The request of a call, if it can be sent. -/
def request? (base : Url.Rooted) (apiToken : String) (call : Call) : Option Request := do
  let url := base.below (← call.segments?)
  if url.isSendable && isHeaderText apiToken then some (call.requestTo url apiToken) else none

theorem request?_eq_some_iff {base : Url.Rooted} {apiToken : String} {call : Call}
    {request : Request} {segments : List String} (hpath : call.segments? = some segments) :
    request? base apiToken call = some request ↔
      ((base.below segments).isSendable = true ∧ isHeaderText apiToken = true) ∧
        call.requestTo (base.below segments) apiToken = request := by
  rw [request?, hpath]
  change (if _ then _ else _) = some request ↔ _
  rw [Option.ite_none_right_eq_some, Bool.and_eq_true, Option.some_inj]

def unknownToken : Failure := .classify none "could not find token"

def unanswered : Failure := .classify none "no response to the request"

/-- The messages of the errors that a body lists, if it lists errors. -/
def messagesOf (body : Bytes) : List String :=
  (((Json.read? body).bind Envelope.noticesOfJson?).getD []).map (·.message)

def isSuccess (status : Nat) : Bool :=
  200 ≤ status && status < 300

def envelope (call : Call) (response : Response) : Except Failure (Envelope call.Payload) :=
  if !isSuccess response.status then
    .error (.ofResponse response.status (messagesOf response.body))
  else
    match (Json.read? response.body).bind (Envelope.ofJson? call.payload?) with
    | none =>
      .error (.classify (some response.status) "cannot decode response: not the expected envelope")
    | some envelope =>
      if envelope.success then .ok envelope
      else .error (.ofResponse response.status (envelope.errors.map (·.message)))

def resultless : Failure := .classify none "response has no result"

def answer : (call : Call) → Envelope call.Payload → Except Failure call.Answer
  | listPermissionGroups, envelope => .ok (envelope.result.getD [])
  | createToken _, envelope => envelope.result.elim (.error resultless) .ok
  | getToken _, envelope => envelope.result.elim (.error resultless) .ok
  | deleteToken _, _ => .ok ()

/-- What becomes of a call whose request was sent or could not be. -/
def conclude (call : Call) (response : Option Response) : Except Failure (Envelope call.Payload) :=
  match response with
  | some response => call.envelope response
  | none => .error unanswered

def outcome : Except Failure α → String
  | .ok _ => "success"
  | .error failure => failure.kind.label

/-- A call that is given its response, and took some seconds. A call that names no token is not
counted. -/
def run (call : Call) (response : Option Response) (seconds : Float) (metrics : Metrics) :
    Except Failure call.Answer × Metrics :=
  match call.segments? with
  | none => (.error unknownToken, metrics)
  | some _ =>
    let concluded := call.conclude response
    (concluded >>= call.answer,
      metrics.recordCall call.operation (outcome concluded) seconds)

end Call

end BucketKeys.TokenApi
