import BucketKeys.Schema.Resources

/-!
Definitions of the custom resources, as they are installed in a cluster.
-/

namespace BucketKeys

structure PrinterColumn where
  name : String
  path : String
  deriving DecidableEq, Repr

structure Definition where
  kind : Kind
  shortNames : List String
  columns : List PrinterColumn
  spec : Schema
  status : Option Schema

namespace PrinterColumn

def toJson (column : PrinterColumn) : Json :=
  .object
    [("name", .string column.name), ("type", .string "string"), ("jsonPath", .string column.path)]

end PrinterColumn

namespace Definition

def schema (definition : Definition) : Schema :=
  .record
    (Schema.described
      ("Auto-generated derived type for " ++ definition.kind.name ++
        "Spec via `CustomResource`"))
    (("spec", definition.spec) :: (definition.status.map (("status", ·))).toList)
    ["spec"]

def toJson (definition : Definition) : Json :=
  let kind := definition.kind
  let version := Json.object
    [("name", .string kind.version), ("served", .bool true), ("storage", .bool true),
     ("additionalPrinterColumns", .array (definition.columns.map PrinterColumn.toJson)),
     ("subresources",
       .object (definition.status.map fun _ => ("status", Json.object [])).toList),
     ("schema",
       .object
         [("openAPIV3Schema",
           .object (("title", .string kind.name) :: definition.schema.members))])]
  .object
    [("apiVersion", .string "apiextensions.k8s.io/v1"),
     ("kind", .string "CustomResourceDefinition"),
     ("metadata", .object [("name", .string (kind.plural ++ "." ++ kind.group))]),
     ("spec",
       .object
         [("group", .string kind.group),
          ("names",
            .object
              [("categories", .array []), ("kind", .string kind.name),
               ("plural", .string kind.plural), ("singular", .string kind.singular),
               ("shortNames", .ofStrings definition.shortNames)]),
          ("scope", .string "Cluster"), ("versions", .array [version])])]

def credentials : Definition where
  kind := .credentials
  shortNames := ["r2creds"]
  columns :=
    [⟨"Ready", ".status.conditions[?(@.type==\"Ready\")].status"⟩,
     ⟨"Synced", ".status.conditions[?(@.type==\"Synced\")].status"⟩,
     ⟨"External-Name", ".metadata.annotations.crossplane\\.io/external-name"⟩]
  spec := Schema.credentialsSpec
  status := some Schema.credentialsStatus

def providerConfig : Definition where
  kind := .providerConfig
  shortNames := ["pc"]
  columns := [⟨"Source", ".spec.credentials.source"⟩]
  spec := Schema.providerConfigSpec
  status := none

def providerConfigUsage : Definition where
  kind := .providerConfigUsage
  shortNames := []
  columns :=
    [⟨"Config", ".spec.providerConfigRef.name"⟩, ⟨"Resource", ".spec.resourceRef.name"⟩]
  spec := Schema.providerConfigUsageSpec
  status := none

def all : List Definition := [credentials, providerConfig, providerConfigUsage]

end Definition

end BucketKeys
