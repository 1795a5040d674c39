import BucketKeys.Cluster.Sources
import BucketKeys.Issuance.ConnectionDetails
import BucketKeys.Resource.Bookkeeping

/-!
What a pass writes to the cluster: annotations, finalizers and the status of its resource, and the
secret that its users read. Each write names only what it changes.
-/

namespace BucketKeys.Cluster

def annotationsPatch (changes : Dictionary (Option String)) : Json :=
  .object
    [("metadata", .object [("annotations", Json.ofDictionary (Json.ofOption .string) changes)])]

def finalizersPatch (finalizers : List String) : Json :=
  .object [("metadata", .object [("finalizers", .ofStrings finalizers)])]

def patch (resource : Credentials) (part : String) (patch : Json)
    (conclude : Except Trouble Credentials → Except Fault Unit) : Exchange Unit :=
  .about (objectsPath .credentials) resource.displayName part (.merge patch) Credentials.ofJson?
    conclude

def updateAnnotations (resource : Credentials) (changes : Dictionary (Option String)) :
    Exchange Unit :=
  patch resource "" (annotationsPatch changes) stored

def updateFinalizers (resource : Credentials) (finalizers : List String) : Exchange Unit :=
  patch resource "" (finalizersPatch finalizers) storedIfThere

def updateStatus (resource : Credentials) : Exchange Unit :=
  patch resource "/status" resource.statusPatch storedIfThere

def connectionSecretType : String := "connection.crossplane.io/v1alpha1"

/-- The resource as the controller of another object; it needs a name and an identity. -/
def ownerReference? (resource : Credentials) : Option OwnerReference := do
  return {
    apiVersion := Kind.credentials.apiVersion
    kind := Kind.credentials.name
    name := ← resource.metadata.name
    uid := ← resource.metadata.uid
    controller := some true
    blockOwnerDeletion := none }

/-- The secret goes with the resource that owns it. -/
def connectionSecret (reference : SecretReference) (resource : Credentials)
    (details : ConnectionDetails) : Secret where
  metadata := {
    name := some reference.name
    namespaceName := some reference.namespaceName
    ownerReferences := (ownerReference? resource).map fun owner => [owner] }
  type := some connectionSecretType
  data := some details

/-- A resource that names no secret publishes nothing. -/
def publish (resource : Credentials) (details : ConnectionDetails) : Exchange Unit :=
  match resource.spec.writeConnectionSecretToRef with
  | none => .settled (.ok ())
  | some reference =>
    .about (secretsPath reference.namespaceName) reference.name ""
      (.apply (connectionSecret reference resource details).toJson) Secret.ofJson? fun result =>
        match result with
        | .ok _ => .ok ()
        | .error trouble =>
          .error (.connectionPublishFailed
            ("secret " ++ reference.namespaceName ++ "/" ++ reference.name ++ ": " ++
              trouble.message))

end BucketKeys.Cluster
