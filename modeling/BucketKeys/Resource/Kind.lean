/-!
Kinds of custom resources: their names in the API of the cluster.
-/

namespace BucketKeys

structure Kind where
  name : String
  group : String
  version : String
  deriving DecidableEq, Repr

namespace Kind

def apiVersion (kind : Kind) : String :=
  kind.group ++ "/" ++ kind.version

def singular (kind : Kind) : String :=
  kind.name.map Char.toLower

def plural (kind : Kind) : String :=
  kind.singular ++ if kind.singular.endsWith "s" then "es" else "s"

def credentials : Kind := ⟨"Credentials", "r2.cloudflare.crossplane.io", "v1alpha1"⟩

def providerConfig : Kind := ⟨"ProviderConfig", "cloudflare.crossplane.io", "v1beta1"⟩

def providerConfigUsage : Kind := ⟨"ProviderConfigUsage", "cloudflare.crossplane.io", "v1beta1"⟩

end Kind

end BucketKeys
