import BucketKeys.Cluster.Exchange
import BucketKeys.Cluster.Secret
import BucketKeys.Resource.ProviderConfig

/-!
Provider configurations, secrets and usages in the cluster.
-/

namespace BucketKeys.Cluster

def objectsPath (kind : Kind) : String :=
  "/apis/" ++ kind.group ++ "/" ++ kind.version ++ "/" ++ kind.plural

def providerConfig (name : String) : Exchange ProviderConfigSpec :=
  .about (objectsPath .providerConfig) name "" .get ProviderConfigSpec.ofObject? fun result =>
    match result with
    | .ok spec => .ok spec
    | .error trouble =>
      .error (.configurationResolutionFailed name
        ("cannot get referenced ProviderConfig: " ++ trouble.message))

def secretKey (selector : SecretKeySelector) : Exchange Bytes :=
  let shown := selector.namespaceName ++ "/" ++ selector.name
  .about (secretsPath selector.namespaceName) selector.name "" .get Secret.ofJson? fun result =>
    match result with
    | .error trouble =>
      .error (.credentialExtractionFailed
        ("cannot get credentials secret " ++ shown ++ ": " ++ trouble.message))
    | .ok secret =>
      match secret.data.bind (·.get? selector.key) with
      | some data => .ok data
      | none =>
        .error (.credentialExtractionFailed
          ("secret " ++ shown ++ " has no key " ++ selector.key))

/-- Records a use; the record of an earlier use by the same consumer is replaced. -/
def track (config : ProviderConfigReference) (consumer : TypedReference) : Exchange Unit :=
  let usage := ProviderConfigUsage.record config consumer
  .about (objectsPath .providerConfigUsage) usage.name "" (.apply usage.toJson)
    ProviderConfigUsage.ofJson? stored

end BucketKeys.Cluster
