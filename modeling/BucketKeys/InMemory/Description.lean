import BucketKeys.InMemory.Site
import BucketKeys.Json.ByteText

/-!
Benches and sites described in JSON: every member of a description changes one thing of a bench.
-/

namespace BucketKeys

namespace TokenApi.Failure

/-- The status of a response has sixteen bits. -/
def status? : Json.Decoder Nat
  | .number (.whole (.ofNat status)) => if status < UInt16.size then some status else none
  | _ => none

/-- A failure by the status and the messages of a response, or by its whole message. -/
def ofDescription? (description : Json) : Option Failure := do
  let status ← Json.Decode.optional status? ((description.get? "status").getD .null)
  match description.get? "messages", description.get? "message" with
  | some (.array messages), _ =>
    return ofResponse (← status) (← messages.mapM Json.Decode.string)
  | _, some (.string message) => return classify status message
  | _, _ => none

end TokenApi.Failure

namespace InMemory

open Time (Span)

def natural? : Json → Option Nat
  | .number (.whole (.ofNat value)) => some value
  | .string digits => Text.readNat? UInt64.size digits
  | _ => none

def spanOfMillis? (json : Json) : Option Span :=
  (natural? json).map .ofMillis

/-- A dictionary; null is an empty one. -/
def dictionaryOrNone? (value : Json.Decoder α) (json : Json) : Option (Dictionary α) :=
  (Json.Decode.optional (Json.Decode.dictionary value) json).map (·.getD {})

namespace TokenService

def describe? (name : String) (value : Json) (service : TokenService) : Option TokenService := do
  let failure := Json.Decode.optional TokenApi.Failure.ofDescription? value
  match name with
  | "catalog" =>
    return { service with catalog := ← Json.Decode.list TokenApi.PermissionGroup.ofJson? value }
  | "tokens" => return service.withTokens (← Json.Decode.list TokenApi.Token.ofJson? value)
  | "next_tokens" =>
    return { service with upcoming := ← Json.Decode.list TokenApi.Token.ofJson? value }
  | "list_error" => return { service with listFailure := ← failure }
  | "create_error" => return { service with createFailure := ← failure }
  | "get_error" => return { service with getFailure := ← failure }
  | "delete_error" => return { service with deleteFailure := ← failure }
  | _ => return service

end TokenService

namespace Bench

def describe? (cue : Json.Decoder Cue) (bench : Bench) (member : String × Json) : Option Bench := do
  let value := member.2
  match member.1 with
  | "configs" => return { bench with configs := .ofList value.members }
  | "secrets" => return { bench with secrets := value.namedBytes }
  | "env" => return { bench with environment := value.namedBytes }
  | "files" => return { bench with files := .ofPaths value.namedBytes.entries }
  | "usage_error" =>
    return { bench with usageRefusal := ← Json.Decode.optional Json.Decode.string value }
  | "latency_ms" => return { bench with latencies := ← dictionaryOrNone? spanOfMillis? value }
  | "fail" =>
    return { bench with
      refusals := ← dictionaryOrNone? (Json.Decode.list Json.Decode.bool) value }
  | "external" =>
    return { bench with cues := ← dictionaryOrNone? (Json.Decode.list cue) value }
  | name => return { bench with service := ← bench.service.describe? name value }

def describeAll? (cue : Json.Decoder Cue) (members : List (String × Json)) (bench : Bench) :
    Option Bench :=
  members.foldlM (describe? cue) bench

end Bench

/-- A refusal of one request; null lets the request pass. -/
def refusal? : Json → Option (Option Cluster.Refusal)
  | .null => some none
  | json => do
    let code ← natural? (← json.get? "code")
    let message ← Json.Decode.string (← json.get? "message")
    let reason ← Json.Decode.string (← json.get? "reason")
    return some ⟨code, message, reason⟩

namespace Site

def withObjects (objects : Json) (bench : Bench) : Site :=
  ⟨.withObjects (.ofList objects.members), bench⟩

def refusing? (refusals : Json) (site : Site) : Option Site := do
  let refusals ← Json.Decode.optional (Json.Decode.list refusal?) refusals
  return { site with server := { site.server with refusals := refusals.getD [] } }

def describeBench? (cue : Json.Decoder Cue) (members : Json) (site : Site) : Option Site := do
  return { site with bench := ← site.bench.describeAll? cue members.members }

/-- A site as its members describe it: its `objects`, the `failures` of requests to come, and what
is `set` on its bench. -/
def describe? (cue : Json.Decoder Cue) (bench : Bench) (description : Json) : Option Site := do
  let member (name : String) := (description.get? name).getD .null
  ((← (withObjects (member "objects") bench).refusing? (member "failures"))).describeBench? cue
    (member "set")

end Site

end InMemory

end BucketKeys
