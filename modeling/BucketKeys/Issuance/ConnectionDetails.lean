import BucketKeys.Dictionary
import BucketKeys.Digest.Sha256

/-!
The keys to a bucket that follow from a token: its identity is the access key, and the digest of
its value is the secret key.
-/

namespace BucketKeys

abbrev ConnectionDetails := Dictionary Bytes

namespace Issuance

def storageDomain : String := "r2.cloudflarestorage.com"

def accessKeyName : String := "access_key_id"

def secretKeyName : String := "secret_access_key"

def endpointName : String := "endpoint"

def tokenValueName : String := "token_value"

def endpoint (accountId : String) : String :=
  accountId ++ "." ++ storageDomain

/-- A token without a value has the empty value. -/
def connectionDetails (tokenId : String) (tokenValue : Option String) (accountId : String) :
    ConnectionDetails :=
  let value := tokenValue.getD ""
  .ofList
    [(accessKeyName, Text.encode tokenId),
     (secretKeyName, Text.encode (Digest.Sha256.hexOfText value)),
     (endpointName, Text.encode (endpoint accountId)),
     (tokenValueName, Text.encode value)]

end Issuance

end BucketKeys
