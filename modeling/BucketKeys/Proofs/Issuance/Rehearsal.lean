import BucketKeys.Proofs.Script.Moments
import BucketKeys.Issuance.Client
import BucketKeys.Round

/-!
Rounds against surroundings that answer every question, each by itself, while the clock ticks.
-/

namespace BucketKeys.Issuance

open TokenApi

/-- Every answer and every count takes a second; the rate limiter admits every pass. -/
def ticking (epoch : Int) (answer : (call : Pass.Call interface) → Pass.Answer call) :
    Surroundings (Round.interface interface) Nat where
  now ticks := ⟨epoch + ticks, 0⟩
  count _ ticks := ticks + 1
  answer
    | .admission, ticks => (Time.Span.zero, ticks + 1)
    | .within _ call, ticks => (some (answer call), ticks + 1)
    | .recordFailure _, ticks => (Except.ok (), ticks + 1)

def rehearsal (epoch : Int) (answer : (call : Pass.Call interface) → Pass.Answer call)
    (options : PassOptions) (resource : Credentials) : List (Moment (Round.interface interface)) :=
  (Round.run connector options resource).recite (ticking epoch answer) 0 []

def ending (epoch : Int) (answer : (call : Pass.Call interface) → Pass.Answer call)
    (options : PassOptions) (resource : Credentials) : Credentials × Round.Outcome :=
  ((Round.run connector options resource).play (ticking epoch answer) 0).1

theorem reaches_rehearsal (epoch : Int)
    (answer : (call : Pass.Call interface) → Pass.Answer call) (options : PassOptions)
    (resource : Credentials) :
    (Round.run connector options resource).Reaches (rehearsal epoch answer options resource)
      (some (.done (ending epoch answer options resource).1
        (ending epoch answer options resource).2)) :=
  Script.reaches_recite (ticking epoch answer) .here 0

def login : (call : Authentication.Call) → Authentication.Answer call
  | .providerConfig _ => Except.ok ⟨⟨.environment, none, some "API_TOKEN", none⟩⟩
  | .track .. => Except.ok ()
  | .secretKey _ => Except.error .noUsableCredential
  | .variable _ => Except.ok "\x7b\"api_token\":\"secret\"\x7d"
  | .file _ => Except.error "no such file"

/-- A token service that knows one token, and will create another one. -/
def service (known : Option Token) (fresh : Token) : (call : Call) → Answer call
  | .authentication call => login call
  | .authenticate _ => ()
  | .listPermissionGroups => Except.ok [⟨"group", readGroupName, []⟩]
  | .createToken _ => Except.ok fresh
  | .getToken id => look id
  | .deleteToken id => (look id).map fun _ => ()
where
  look (id : String) : Except Failure Token :=
    match known.filter (·.id == id) with
    | some token => .ok token
    | none => .error ⟨.notFound, "HTTP status 404"⟩

def obliging (known : Option Token) (fresh : Token) :
    (call : Pass.Call interface) → Pass.Answer call
  | .remote call => service known fresh call
  | .updateAnnotations .. => Except.ok ()
  | .updateFinalizers .. => Except.ok ()
  | .updateStatus _ => Except.ok ()
  | .publish .. => Except.ok ()
  | .pause _ => ()

def applicant : Credentials where
  metadata := { name := some "media", uid := some "uid-media" }
  spec :=
    { forProvider := ⟨"account", none, "media-token", []⟩
      providerConfigRef := some .fallback
      writeConnectionSecretToRef := some ⟨"media-r2", "apps"⟩
      deletionPolicy := .delete }
  status := none

def habits : PassOptions where
  pollInterval := .ofSeconds 60
  timeout := .ofSeconds 120
  shortWait := .ofSeconds 30
  recordAttempts := 4

def tokenNamed (id : String) : Token :=
  ⟨id, some "media-token", some "active", none, some "value"⟩

end BucketKeys.Issuance
