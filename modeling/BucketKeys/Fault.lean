import BucketKeys.Time.SpanText
import BucketKeys.TokenApi.Failure

/-!
Why a pass over a resource fails. All but one of the causes are worth another pass.
-/

namespace BucketKeys

inductive Fault where
  | configurationMissing
  | configurationResolutionFailed (name message : String)
  | credentialExtractionFailed (message : String)
  | noUsableCredential
  | authenticationUnavailable (cause : Fault)
  | permissionGroupLookupFailed (failure : TokenApi.Failure)
  | noMatchingPermissionGroups
  | tokenCreationFailed (failure : TokenApi.Failure)
  | tokenFetchFailed (failure : TokenApi.Failure)
  | tokenDeletionFailed (failure : TokenApi.Failure)
  | notAManagedResource (expected reason : String)
  | timeout (limit : Time.Span)
  | store (message : String)
  | connectionPublishFailed (message : String)
  /-- An earlier creation did not record its outcome. -/
  | incompleteCreation
  deriving DecidableEq, Repr

namespace Fault

def message : Fault → String
  | configurationMissing => "no providerConfigRef provided"
  | configurationResolutionFailed name message =>
    "cannot resolve ProviderConfig " ++ name ++ ": " ++ message
  | credentialExtractionFailed message => "cannot extract credentials: " ++ message
  | noUsableCredential => "no api_token found in credentials"
  | authenticationUnavailable cause => "cannot connect to Cloudflare: " ++ cause.message
  | permissionGroupLookupFailed failure => "cannot lookup permission groups: " ++ failure.message
  | noMatchingPermissionGroups => "no R2 permission groups found"
  | tokenCreationFailed failure => "cannot create API token: " ++ failure.message
  | tokenFetchFailed failure => "cannot get API token: " ++ failure.message
  | tokenDeletionFailed failure => "cannot delete API token: " ++ failure.message
  | notAManagedResource expected reason =>
    "managed resource is not a " ++ expected ++ " custom resource: " ++ reason
  | timeout limit => "reconciliation pass exceeded " ++ limit.text
  | store message => "cannot update managed resource: " ++ message
  | connectionPublishFailed message => "cannot publish connection details: " ++ message
  | incompleteCreation =>
    "cannot determine creation result - remove the crossplane.io/external-create-pending " ++
      "annotation if it is safe to proceed"

def label : Fault → String
  | configurationMissing => "configuration_missing"
  | configurationResolutionFailed .. => "configuration_resolution_failed"
  | credentialExtractionFailed _ => "credential_extraction_failed"
  | noUsableCredential => "no_usable_credential"
  | authenticationUnavailable _ => "authentication_unavailable"
  | permissionGroupLookupFailed _ => "permission_group_lookup_failed"
  | noMatchingPermissionGroups => "no_matching_permission_groups"
  | tokenCreationFailed _ => "token_creation_failed"
  | tokenFetchFailed _ => "token_fetch_failed"
  | tokenDeletionFailed _ => "token_deletion_failed"
  | notAManagedResource .. => "not_a_managed_resource"
  | timeout _ => "timeout"
  | store _ => "store"
  | connectionPublishFailed _ => "connection_publish_failed"
  | incompleteCreation => "incomplete_creation"

/-- Another pass cannot help. -/
def isFatal : Fault → Bool
  | notAManagedResource .. => true
  | _ => false

/-- Marks a fault of resolving credentials, once. -/
def unauthenticated : Fault → Fault
  | authenticationUnavailable cause => .authenticationUnavailable cause
  | cause => .authenticationUnavailable cause

@[simp] theorem unauthenticated_unauthenticated (fault : Fault) :
    fault.unauthenticated.unauthenticated = fault.unauthenticated := by
  cases fault <;> rfl

@[simp] theorem isFatal_unauthenticated (fault : Fault) : fault.unauthenticated.isFatal = false := by
  cases fault <;> rfl

end Fault

end BucketKeys
