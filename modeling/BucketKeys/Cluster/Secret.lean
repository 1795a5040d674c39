import BucketKeys.Dictionary
import BucketKeys.Resource.Metadata
import BucketKeys.Text.Base64

/-!
Secrets of the cluster: named byte strings, written in base 64.
-/

namespace BucketKeys.Cluster

structure Secret where
  metadata : Metadata
  type : Option String
  data : Option (Dictionary Bytes)
  deriving Repr

namespace Secret

def apiVersion : String := "v1"

def kindName : String := "Secret"

/-- A null stands for no bytes. -/
def bytesOfJson? : Json.Decoder Bytes
  | .string text => Text.Base64.decode? text
  | .null => some []
  | _ => none

def bytesToJson (data : Bytes) : Json :=
  .string (Text.Base64.encode data)

def toJson (secret : Secret) : Json :=
  Json.present
    [("apiVersion", some (.string apiVersion)),
     ("kind", some (.string kindName)),
     ("data", secret.data.map (Json.ofDictionary bytesToJson)),
     ("metadata", some secret.metadata.toJson),
     ("type", secret.type.map .string)]

def ofJson? : Json.Decoder Secret
  | .object members => do
    let fixed (name value : String) :=
      members.all fun member => member.1 != name || member.2 == .string value
    guard (fixed "apiVersion" apiVersion ∧ fixed "kind" kindName)
    let metadata ← Json.sparse members "metadata" Metadata.ofJson?
    let _ ← Json.sparse members "immutable" Json.Decode.bool
    let _ ← Json.sparse members "stringData" (Json.Decode.dictionary Json.Decode.string)
    return {
      metadata := metadata.getD {}
      type := ← Json.sparse members "type" Json.Decode.string
      data := ← Json.sparse members "data" (Json.Decode.dictionary bytesOfJson?) }
  | _ => none

end Secret

def secretsPath (namespaceName : String) : String :=
  "/api/v1/namespaces/" ++ namespaceName ++ "/secrets"

end BucketKeys.Cluster
