import BucketKeys.Json.Decode
import BucketKeys.Text.Quoted
import BucketKeys.Time.Relaxed

/-!
What is said to the token service and what it answers: tokens, permission groups, the policy of a
new token, and the envelope around every answer.
-/

namespace BucketKeys.TokenApi

open Time (Instant)

/-- A token; its value is told only by the answer that creates it. -/
structure Token where
  id : String
  name : Option String
  status : Option String
  issuedOn : Option Instant
  value : Option String
  deriving DecidableEq, Repr

structure PermissionGroup where
  id : String
  name : String
  scopes : List String
  deriving DecidableEq, Repr

structure GroupReference where
  id : String
  name : Option String
  deriving DecidableEq, Repr

structure Policy where
  effect : String
  resources : Dictionary String
  permissionGroups : List GroupReference
  deriving DecidableEq, Repr

structure TokenRequest where
  name : String
  policies : List Policy
  deriving DecidableEq, Repr

structure Notice where
  code : Int
  message : String
  deriving DecidableEq, Repr

structure Envelope (α : Type) where
  success : Bool
  errors : List Notice
  result : Option α
  deriving DecidableEq, Repr

namespace Token

/-- A token without a status is taken to be active. -/
def isUsable (token : Token) : Bool :=
  match token.status with
  | none => true
  | some status => status == "active"

def ofJson? : Json.Decoder Token := fun json => do
  let record ← Json.Record.ofJson? ["id", "name", "status", "issued_on", "value"] json
  let text (name : String) :=
    record.defaulted name (Json.Decode.optional Json.Decode.string) none
  let instant : Json.Decoder Instant
    | .string text => Time.Relaxed.read? text
    | _ => none
  return {
    id := ← record.required "id" Json.Decode.string
    name := ← text "name"
    status := ← text "status"
    issuedOn := ← record.defaulted "issued_on" (Json.Decode.optional instant) none
    value := ← text "value" }

def shown (token : Token) : String :=
  let optional (text : Option String) :=
    match text with
    | some text => "Some(" ++ text ++ ")"
    | none => "None"
  "ApiToken \x7b id: " ++ Text.Quoted.ofString token.id ++
    ", name: " ++ optional (token.name.map Text.Quoted.ofString) ++
    ", status: " ++ optional (token.status.map Text.Quoted.ofString) ++
    ", issued_on: " ++ optional (token.issuedOn.map Time.Rfc3339.shown) ++
    ", value: " ++ optional (token.value.map fun _ => Text.Quoted.ofString "<redacted>") ++ " \x7d"

def issuedOnText (token : Token) : Option String :=
  token.issuedOn.map Time.Rfc3339.transition

end Token

namespace PermissionGroup

def ofJson? : Json.Decoder PermissionGroup := fun json => do
  let record ← Json.Record.ofJson? ["id", "name", "scopes"] json
  return ⟨← record.required "id" Json.Decode.string,
    ← record.required "name" Json.Decode.string,
    ← record.defaulted "scopes" (Json.Decode.list Json.Decode.string) []⟩

def toJson (group : PermissionGroup) : Json :=
  .object
    [("id", .string group.id), ("name", .string group.name),
     ("scopes", .ofStrings group.scopes)]

def reference (group : PermissionGroup) : GroupReference :=
  ⟨group.id, some group.name⟩

end PermissionGroup

namespace GroupReference

def ofJson? : Json.Decoder GroupReference := fun json => do
  let record ← Json.Record.ofJson? ["id", "name"] json
  return ⟨← record.required "id" Json.Decode.string,
    ← record.defaulted "name" (Json.Decode.optional Json.Decode.string) none⟩

def toJson (group : GroupReference) : Json :=
  Json.present [("id", some (.string group.id)), ("name", group.name.map .string)]

end GroupReference

namespace Policy

def allow (resources : Dictionary String) (permissionGroups : List GroupReference) : Policy :=
  ⟨"allow", resources, permissionGroups⟩

def ofJson? : Json.Decoder Policy := fun json => do
  let record ← Json.Record.ofJson? ["effect", "resources", "permission_groups"] json
  return ⟨← record.required "effect" Json.Decode.string,
    ← record.required "resources" (Json.Decode.dictionary Json.Decode.string),
    ← record.required "permission_groups" (Json.Decode.list GroupReference.ofJson?)⟩

def toJson (policy : Policy) : Json :=
  .object
    [("effect", .string policy.effect),
     ("resources", Json.ofDictionary .string policy.resources),
     ("permission_groups", .array (policy.permissionGroups.map GroupReference.toJson))]

end Policy

namespace TokenRequest

def ofJson? : Json.Decoder TokenRequest := fun json => do
  let record ← Json.Record.ofJson? ["name", "policies"] json
  return ⟨← record.required "name" Json.Decode.string,
    ← record.required "policies" (Json.Decode.list Policy.ofJson?)⟩

def toJson (request : TokenRequest) : Json :=
  .object
    [("name", .string request.name), ("policies", .array (request.policies.map Policy.toJson))]

end TokenRequest

namespace Notice

def ofJson? : Json.Decoder Notice := fun json => do
  let record ← Json.Record.ofJson? ["code", "message"] json
  return ⟨← record.defaulted "code" Json.Decode.int64 0,
    ← record.defaulted "message" Json.Decode.string ""⟩

end Notice

namespace Envelope

def ofJson? (result : Json.Decoder α) : Json.Decoder (Envelope α) := fun json => do
  let record ← Json.Record.ofJson? ["success", "errors", "result"] json
  return ⟨← record.defaulted "success" Json.Decode.bool false,
    ← record.defaulted "errors" (Json.Decode.list Notice.ofJson?) [],
    ← record.nullable "result" result⟩

def noticesOfJson? : Json.Decoder (List Notice) := fun json => do
  let record ← Json.Record.ofJson? ["errors"] json
  record.defaulted "errors" (Json.Decode.list Notice.ofJson?) []

end Envelope

end BucketKeys.TokenApi
