import BucketKeys.Resource.Credentials
import BucketKeys.TokenApi.Types

/-!
What a token may do and where: the permission groups of the token service that grant the
permissions asked for, and one bucket of an account or the whole account.
-/

namespace BucketKeys.Issuance

open TokenApi

def readGroupName : String := "Workers R2 Storage Bucket Item Read"

def writeGroupName : String := "Workers R2 Storage Bucket Item Write"

/-- Asked for by name, or by asking for nothing. -/
def wants (permissions : List Permission) (permission : Permission) : Bool :=
  permissions.isEmpty || permissions.contains permission

def grants (permissions : List Permission) (group : PermissionGroup) : Bool :=
  (wants permissions .read && group.name == readGroupName) ||
    (wants permissions .write && group.name == writeGroupName)

/-- The groups wanted, in the order of the catalog. -/
def selectGroups (catalog : List PermissionGroup) (permissions : List Permission) :
    List GroupReference :=
  (catalog.filter (grants permissions)).map PermissionGroup.reference

def resourceKey (accountId : String) (bucketName : Option String) : String :=
  match bucketName.filter (!·.isEmpty) with
  | some bucket => "com.cloudflare.edge.r2.bucket." ++ accountId ++ "_default_" ++ bucket
  | none => "com.cloudflare.api.account." ++ accountId

def resourceScope (accountId : String) (bucketName : Option String) : Dictionary String :=
  .singleton (resourceKey accountId bucketName) "*"

end BucketKeys.Issuance
