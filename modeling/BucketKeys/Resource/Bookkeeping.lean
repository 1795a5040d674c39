import BucketKeys.Resource.Credentials

/-!
What the controller remembers on a resource: the identity of its token, the times around each
creation, and the finalizer that holds the resource until its token is gone.
-/

namespace BucketKeys.Bookkeeping

/-- The identity of the token that belongs to the resource. -/
def externalNameKey : String := "crossplane.io/external-name"

def pendingKey : String := "crossplane.io/external-create-pending"

def succeededKey : String := "crossplane.io/external-create-succeeded"

def failedKey : String := "crossplane.io/external-create-failed"

def finalizer : String := "finalizer.managedresource.crossplane.io"

end Bookkeeping

namespace Credentials

open Bookkeeping

def annotationOf? (key : String) (resource : Credentials) : Option String :=
  resource.metadata.annotations.bind (·.get? key)

def annotate (key value : String) (resource : Credentials) : Credentials :=
  let annotations := (resource.metadata.annotations.getD {}).insert key value
  { resource with metadata := { resource.metadata with annotations := some annotations } }

theorem annotationOf?_annotate (key other value : String) (resource : Credentials) :
    (resource.annotate key value).annotationOf? other =
      if key = other then some value else resource.annotationOf? other := by
  cases h : resource.metadata.annotations with
  | none => simp [annotate, annotationOf?, h, Dictionary.get?_insert, EmptyCollection.emptyCollection]
  | some annotations => simp [annotate, annotationOf?, h, Dictionary.get?_insert]

/-- An empty name names no token. -/
def externalName? (resource : Credentials) : Option String :=
  (resource.annotationOf? externalNameKey).filter (!·.isEmpty)

def setExternalName (name : String) (resource : Credentials) : Credentials :=
  resource.annotate externalNameKey name

theorem externalName?_setExternalName {name : String} (h : name ≠ "") (resource : Credentials) :
    (resource.setExternalName name).externalName? = some name := by
  simp [externalName?, setExternalName, annotationOf?_annotate, h]

/-- The time in an annotation; a text that is no time counts as missing. -/
def annotationTime? (key : String) (resource : Credentials) : Option Time.Instant :=
  (resource.annotationOf? key).bind Time.Rfc3339.read?

/-- A creation began and its outcome was not recorded: its time is later than both outcomes. -/
def createIncomplete (resource : Credentials) : Bool :=
  match resource.annotationTime? pendingKey with
  | none => false
  | some pending =>
    let newer (key : String) : Bool :=
      match resource.annotationTime? key with
      | none => true
      | some time => decide (time < pending)
    newer succeededKey && newer failedKey

def isDeleting (resource : Credentials) : Bool :=
  resource.metadata.deletionTimestamp.isSome

def finalizers (resource : Credentials) : List String :=
  resource.metadata.finalizers.getD []

def hasFinalizer (resource : Credentials) : Bool :=
  resource.finalizers.contains finalizer

def finalizersWith (resource : Credentials) : List String :=
  if resource.hasFinalizer then resource.finalizers else resource.finalizers ++ [finalizer]

def finalizersWithout (resource : Credentials) : List String :=
  resource.finalizers.filter (· != finalizer)

def setFinalizers (finalizers : List String) (resource : Credentials) : Credentials :=
  { resource with metadata := { resource.metadata with finalizers := some finalizers } }

theorem finalizer_mem_finalizersWith (resource : Credentials) :
    finalizer ∈ resource.finalizersWith := by
  unfold finalizersWith
  split
  · rename_i h
    exact List.contains_iff_mem.mp h
  · simp

theorem mem_finalizersWithout {name : String} {resource : Credentials} :
    name ∈ resource.finalizersWithout ↔ name ∈ resource.finalizers ∧ name ≠ finalizer := by
  simp [finalizersWithout]

@[simp] theorem finalizers_setFinalizers (finalizers : List String) (resource : Credentials) :
    (resource.setFinalizers finalizers).finalizers = finalizers := rfl

end Credentials

end BucketKeys
