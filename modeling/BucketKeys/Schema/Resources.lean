import BucketKeys.Resource.Credentials
import BucketKeys.Resource.ProviderConfig
import BucketKeys.Schema.Basic

/-!
The schemas of the custom resources, field by field as the readers of the resources take them.
-/

namespace BucketKeys.Schema

private def field (name : String) (schema : Schema) : String × Schema := (name, schema)

private def note (description : String) : Notes := described description

def providerConfigReference (notes : Notes) : Schema :=
  .record notes [field "name" (.text (note "Name of the referenced ProviderConfig"))] ["name"]

def secretReference (notes : Notes) : Schema :=
  .record notes
    [field "name" (.text (note "Name of the secret")),
     field "namespace" (.text (note "Namespace of the secret"))]
    ["name", "namespace"]

def secretKeySelector (notes : Notes) : Schema :=
  .record notes
    [field "key" (.text (note "Key within the secret data")),
     field "name" (.text (note "Name of the secret")),
     field "namespace" (.text (note "Namespace of the secret"))]
    ["key", "name", "namespace"]

def typedReference (notes : Notes) : Schema :=
  .record notes
    [field "apiVersion" (.text {}), field "kind" (.text {}), field "name" (.text {}),
     field "uid" (.text (optionally {}))]
    ["apiVersion", "kind", "name"]

def tokenParameters (notes : Notes) : Schema :=
  .record notes
    [field "accountId" (.text (note "Cloudflare account ID owning the R2 buckets")),
     field "bucketName"
       (.text (optionally (note "Restrict the token to this bucket; account-wide when unset"))),
     field "name" (.text (note "Display name of the token in Cloudflare")),
     field "permissions"
       (.list
         (orElse (.array [])
           (note "Requested object permissions. Empty grants both read and write."))
         (.choice (note "Abstract R2 object permission") (Permission.all.map (·.1))))]
    ["accountId", "name"]

def credentialsText : String :=
  "Credentials Custom Resource Definition\n\n" ++
  "Issues a Cloudflare API token restricted to R2 object access for one account,\n" ++
  "or for one bucket within that account.\n\n" ++
  "# Example\n\n" ++
  "```yaml\n" ++
  "apiVersion: r2.cloudflare.crossplane.io/v1alpha1\n" ++
  "kind: Credentials\n" ++
  "metadata:\n" ++
  "  name: media-bucket-rw\n" ++
  "spec:\n" ++
  "  forProvider:\n" ++
  "    accountId: 0123456789abcdef0123456789abcdef\n" ++
  "    bucketName: media\n" ++
  "    name: media-bucket-rw\n" ++
  "    permissions: [read, write]\n" ++
  "  writeConnectionSecretToRef:\n" ++
  "    namespace: media\n" ++
  "    name: r2-credentials\n" ++
  "```"

def credentialsSpec : Schema :=
  .record (note credentialsText)
    [field "deletionPolicy"
       (.choice
         (orElse DeletionPolicy.delete.toJson
           (note "Whether the token is revoked when this resource is deleted"))
         (DeletionPolicy.all.map (·.1))),
     field "forProvider" (tokenParameters (note "Desired token parameters")),
     field "providerConfigRef"
       (providerConfigReference
         (orElse ProviderConfigReference.fallback.toJson
           (optionally (note (
             "ProviderConfig holding the Cloudflare credentials used to issue the token\n" ++
             "Defaults to the ProviderConfig named `default`"))))),
     field "writeConnectionSecretToRef"
       (secretReference (optionally (note "Secret the issued token is written to")))]
    ["forProvider"]

def condition : Schema :=
  .record (note "Condition represents a condition of a resource")
    [field "lastTransitionTime" (.text (optionally (note "Last transition time"))),
     field "message" (.text (optionally (note "Message describing the condition"))),
     field "reason" (.text (optionally (note "Reason for the condition"))),
     field "status" (.text (note "Status of the condition (True, False, Unknown)")),
     field "type" (.text (note "Type of condition"))]
    ["status", "type"]

def tokenObservation (notes : Notes) : Schema :=
  .record notes
    [field "endpoint" (.text (optionally (note "S3-compatible endpoint host for the account"))),
     field "issuedOn" (.text (optionally (note "Issue time (RFC3339)"))),
     field "status"
       (.text (optionally (note "Token status reported by Cloudflare (e.g. \"active\")"))),
     field "tokenId" (.text (optionally (note "Cloudflare token ID")))]
    []

def credentialsStatus : Schema :=
  .record (optionally (note "Status of the Credentials resource"))
    [field "atProvider"
       (tokenObservation
         (orElse (TokenObservation.toJson {}) (note "Observed state of the issued token"))),
     field "conditions"
       (.list
         (orElse (.array [])
           (note "Conditions represent the latest available observations"))
         condition)]
    []

def providerConfigText : String :=
  "ProviderConfig Custom Resource Definition\n\n" ++
  "# Example\n\n" ++
  "```yaml\n" ++
  "apiVersion: cloudflare.crossplane.io/v1beta1\n" ++
  "kind: ProviderConfig\n" ++
  "metadata:\n" ++
  "  name: default\n" ++
  "spec:\n" ++
  "  credentials:\n" ++
  "    source: Secret\n" ++
  "    secretRef:\n" ++
  "      namespace: crossplane-system\n" ++
  "      name: cloudflare-creds\n" ++
  "      key: credentials\n" ++
  "```\n\n" ++
  "The referenced key holds a flat JSON object, e.g. `\x7b\"api_token\": \"...\"\x7d`."

def providerConfigSpec : Schema :=
  .record (note providerConfigText)
    [field "credentials"
       (.record (note "Where the Cloudflare credentials are read from")
         [field "env"
            (.record
              (optionally
                (note "Environment variable holding the credentials (source: Environment)"))
              [field "name" (.text (note "Name of the environment variable"))] ["name"]),
          field "fs"
            (.record
              (optionally (note "File holding the credentials (source: Filesystem)"))
              [field "path" (.text (note "Path of the file"))] ["path"]),
          field "secretRef"
            (secretKeySelector
              (optionally (note "Secret key holding the credentials (source: Secret)"))),
          field "source"
            (.choice (note "Source of the credentials") (CredentialSource.all.map (·.1)))]
         ["source"])]
    ["credentials"]

def providerConfigUsageSpec : Schema :=
  .record (note "ProviderConfigUsage records that a managed resource uses a ProviderConfig")
    [field "providerConfigRef" (providerConfigReference (note "The ProviderConfig in use")),
     field "resourceRef" (typedReference (note "The managed resource using it"))]
    ["providerConfigRef", "resourceRef"]

end BucketKeys.Schema
