import BucketKeys.Json.Decode

/-!
References between objects: to a provider configuration, to secrets and their keys, and to an
object of any kind.
-/

namespace BucketKeys

structure ProviderConfigReference where
  name : String
  deriving DecidableEq, Repr

structure SecretReference where
  name : String
  namespaceName : String
  deriving DecidableEq, Repr

structure SecretKeySelector where
  name : String
  namespaceName : String
  key : String
  deriving DecidableEq, Repr

structure TypedReference where
  apiVersion : String
  kind : String
  name : String
  uid : Option String
  deriving DecidableEq, Repr

/-- What happens to the issued token when its resource is deleted. -/
inductive DeletionPolicy where
  | delete
  | orphan
  deriving DecidableEq, Repr

namespace ProviderConfigReference

def fallback : ProviderConfigReference := ⟨"default"⟩

def toJson (reference : ProviderConfigReference) : Json :=
  .object [("name", .string reference.name)]

def ofJson? : Json.Decoder ProviderConfigReference := fun json => do
  let record ← Json.Record.ofJson? ["name"] json
  return ⟨← record.required "name" Json.Decode.string⟩

end ProviderConfigReference

namespace SecretReference

def toJson (reference : SecretReference) : Json :=
  .object [("name", .string reference.name), ("namespace", .string reference.namespaceName)]

def ofJson? : Json.Decoder SecretReference := fun json => do
  let record ← Json.Record.ofJson? ["name", "namespace"] json
  return ⟨← record.required "name" Json.Decode.string,
    ← record.required "namespace" Json.Decode.string⟩

end SecretReference

namespace SecretKeySelector

def toJson (selector : SecretKeySelector) : Json :=
  .object
    [("name", .string selector.name), ("namespace", .string selector.namespaceName),
     ("key", .string selector.key)]

def ofJson? : Json.Decoder SecretKeySelector := fun json => do
  let record ← Json.Record.ofJson? ["name", "namespace", "key"] json
  return ⟨← record.required "name" Json.Decode.string,
    ← record.required "namespace" Json.Decode.string,
    ← record.required "key" Json.Decode.string⟩

end SecretKeySelector

namespace TypedReference

def toJson (reference : TypedReference) : Json :=
  .object
    [("apiVersion", .string reference.apiVersion), ("kind", .string reference.kind),
     ("name", .string reference.name), ("uid", Json.ofOption .string reference.uid)]

def ofJson? : Json.Decoder TypedReference := fun json => do
  let record ← Json.Record.ofJson? ["apiVersion", "kind", "name", "uid"] json
  return ⟨← record.required "apiVersion" Json.Decode.string,
    ← record.required "kind" Json.Decode.string,
    ← record.required "name" Json.Decode.string,
    ← record.defaulted "uid" (Json.Decode.optional Json.Decode.string) none⟩

end TypedReference

namespace DeletionPolicy

def name : DeletionPolicy → String
  | delete => "Delete"
  | orphan => "Orphan"

def all : List (String × DeletionPolicy) :=
  [("Delete", delete), ("Orphan", orphan)]

def toJson (policy : DeletionPolicy) : Json :=
  .string policy.name

def ofJson? : Json.Decoder DeletionPolicy :=
  Json.Decode.enumeration all

end DeletionPolicy

end BucketKeys
