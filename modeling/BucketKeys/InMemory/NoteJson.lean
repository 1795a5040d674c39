import BucketKeys.InMemory.Bench
import BucketKeys.Json.ByteText

/-!
Notes as JSON. Looking at the environment and at files leaves no trace.
-/

namespace BucketKeys

def ConnectionDetails.toJson (details : ConnectionDetails) : Json :=
  Json.ofDictionary Json.ofBytes details

namespace InMemory

def callJson (name : String) (members : List (String × Json)) : Json :=
  .object (("call", .string name) :: members)

def authenticationJson? : Authentication.Call → Option Json
  | .providerConfig name => some (callJson "provider_config" [("name", .string name)])
  | .track config consumer =>
    some (callJson "track" [("config", config.toJson), ("consumer", consumer.toJson)])
  | .secretKey selector =>
    some (callJson "secret_key" [("secret", .string (Bench.secretName selector))])
  | .variable _ => none
  | .file _ => none

def issuanceJson? : Issuance.Call → Option Json
  | .authentication call => authenticationJson? call
  | .authenticate token => some (callJson "with_api_token" [("api_token", .string token)])
  | .listPermissionGroups => some (callJson "list_permission_groups" [])
  | .createToken request => some (callJson "create_token" [("request", request.toJson)])
  | .getToken id => some (callJson "get_token" [("id", .string id)])
  | .deleteToken id => some (callJson "delete_token" [("id", .string id)])

def Note.toJson? : Note → Option Json
  | .issuance call => issuanceJson? call
  | .rehearsal operation => some (callJson operation.name [])
  | .updateAnnotations changes =>
    some (callJson "update_annotations"
      [("annotations", Json.ofDictionary (Json.ofOption .string) changes)])
  | .updateFinalizers finalizers =>
    some (callJson "update_finalizers" [("finalizers", .ofStrings finalizers)])
  | .updateStatus status =>
    some (callJson "update_status" [("status", Json.ofOption CredentialsStatus.toJson status)])
  | .publish secret details =>
    some (callJson "publish"
      [("secret", Json.ofOption SecretReference.toJson secret),
       ("details", ConnectionDetails.toJson details)])

def Bench.notesJson (bench : Bench) : Json :=
  .array (bench.notes.reverse.filterMap Note.toJson?)

end InMemory

end BucketKeys
