import BucketKeys.Json.Decode
import BucketKeys.Time.Relaxed

/-!
The metadata that every object of the cluster carries.
-/

namespace BucketKeys

open Time (Instant)

structure OwnerReference where
  apiVersion : String
  kind : String
  name : String
  uid : String
  controller : Option Bool
  blockOwnerDeletion : Option Bool
  deriving DecidableEq, Repr

/-- The fields that one writer manages; kept as they are. -/
structure ManagedFields where
  apiVersion : Option String
  fieldsType : Option String
  fields : Option Json
  manager : Option String
  operation : Option String
  subresource : Option String
  time : Option Instant
  deriving Repr

structure Metadata where
  annotations : Option (Dictionary String) := none
  creationTimestamp : Option Instant := none
  deletionGracePeriodSeconds : Option Int := none
  deletionTimestamp : Option Instant := none
  finalizers : Option (List String) := none
  generateName : Option String := none
  generation : Option Int := none
  labels : Option (Dictionary String) := none
  managedFields : Option (List ManagedFields) := none
  name : Option String := none
  namespaceName : Option String := none
  ownerReferences : Option (List OwnerReference) := none
  resourceVersion : Option String := none
  selfLink : Option String := none
  uid : Option String := none
  deriving Repr

namespace OwnerReference

def toJson (owner : OwnerReference) : Json :=
  Json.present
    [("apiVersion", some (.string owner.apiVersion)),
     ("blockOwnerDeletion", owner.blockOwnerDeletion.map .bool),
     ("controller", owner.controller.map .bool),
     ("kind", some (.string owner.kind)),
     ("name", some (.string owner.name)),
     ("uid", some (.string owner.uid))]

def ofJson? : Json.Decoder OwnerReference
  | .object members => do
    let text (name : String) := (Json.sparse members name Json.Decode.string).map (·.getD "")
    return {
      apiVersion := ← text "apiVersion"
      kind := ← text "kind"
      name := ← text "name"
      uid := ← text "uid"
      controller := ← Json.sparse members "controller" Json.Decode.bool
      blockOwnerDeletion := ← Json.sparse members "blockOwnerDeletion" Json.Decode.bool }
  | _ => none

end OwnerReference

namespace Metadata

def instant? : Json.Decoder Instant
  | .string text => Time.Relaxed.read? text
  | _ => none

def ofInstant (instant : Instant) : Json :=
  .string (Time.Rfc3339.metadata instant)

end Metadata

namespace ManagedFields

def toJson (entry : ManagedFields) : Json :=
  Json.present
    [("apiVersion", entry.apiVersion.map .string),
     ("fieldsType", entry.fieldsType.map .string),
     ("fieldsV1", entry.fields),
     ("manager", entry.manager.map .string),
     ("operation", entry.operation.map .string),
     ("subresource", entry.subresource.map .string),
     ("time", entry.time.map Metadata.ofInstant)]

def ofJson? : Json.Decoder ManagedFields
  | .object members => do
    let text (name : String) := Json.sparse members name Json.Decode.string
    return {
      apiVersion := ← text "apiVersion"
      fieldsType := ← text "fieldsType"
      fields := ← Json.sparse members "fieldsV1" Json.Decode.any
      manager := ← text "manager"
      operation := ← text "operation"
      subresource := ← text "subresource"
      time := ← Json.sparse members "time" Metadata.instant? }
  | _ => none

end ManagedFields

namespace Metadata

def toJson (metadata : Metadata) : Json :=
  Json.present
    [("annotations", metadata.annotations.map (Json.ofDictionary .string)),
     ("creationTimestamp", metadata.creationTimestamp.map ofInstant),
     ("deletionGracePeriodSeconds", metadata.deletionGracePeriodSeconds.map .int),
     ("deletionTimestamp", metadata.deletionTimestamp.map ofInstant),
     ("finalizers", metadata.finalizers.map .ofStrings),
     ("generateName", metadata.generateName.map .string),
     ("generation", metadata.generation.map .int),
     ("labels", metadata.labels.map (Json.ofDictionary .string)),
     ("managedFields", metadata.managedFields.map fun entries =>
       .array (entries.map ManagedFields.toJson)),
     ("name", metadata.name.map .string),
     ("namespace", metadata.namespaceName.map .string),
     ("ownerReferences", metadata.ownerReferences.map fun owners =>
       .array (owners.map OwnerReference.toJson)),
     ("resourceVersion", metadata.resourceVersion.map .string),
     ("selfLink", metadata.selfLink.map .string),
     ("uid", metadata.uid.map .string)]

def ofJson? : Json.Decoder Metadata
  | .object members => do
    let text (name : String) := Json.sparse members name Json.Decode.string
    let texts (name : String) := Json.sparse members name (Json.Decode.dictionary Json.Decode.string)
    return {
      annotations := ← texts "annotations"
      creationTimestamp := ← Json.sparse members "creationTimestamp" instant?
      deletionGracePeriodSeconds :=
        ← Json.sparse members "deletionGracePeriodSeconds" Json.Decode.int64
      deletionTimestamp := ← Json.sparse members "deletionTimestamp" instant?
      finalizers := ← Json.sparse members "finalizers" (Json.Decode.list Json.Decode.string)
      generateName := ← text "generateName"
      generation := ← Json.sparse members "generation" Json.Decode.int64
      labels := ← texts "labels"
      managedFields := ← Json.sparse members "managedFields" (Json.Decode.list ManagedFields.ofJson?)
      name := ← text "name"
      namespaceName := ← text "namespace"
      ownerReferences :=
        ← Json.sparse members "ownerReferences" (Json.Decode.list OwnerReference.ofJson?)
      resourceVersion := ← text "resourceVersion"
      selfLink := ← text "selfLink"
      uid := ← text "uid" }
  | _ => none

end Metadata

end BucketKeys
