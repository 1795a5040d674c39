import BucketKeys.Proofs.Issuance.Acts

/-!
What the writes of a pass do to the stored resource.
-/

namespace BucketKeys

/-- A patch of annotations: those with a value are set, the others removed. -/
def Dictionary.patch (map : Dictionary α) (changes : Dictionary (Option α)) : Dictionary α :=
  changes.entries.foldl (fun map change =>
    match change.2 with
    | some value => map.insert change.1 value
    | none => map.erase change.1) map

theorem Dictionary.get?_patch (map : Dictionary α) (changes : Dictionary (Option α))
    (name : String) :
    (map.patch changes).get? name = (changes.get? name).getD (map.get? name) := by
  obtain ⟨entries, hascending⟩ := changes
  unfold patch
  rw [show Dictionary.get? name ⟨entries, hascending⟩ =
    (entries.find? (·.1 == name)).map (·.2) from rfl]
  induction entries generalizing map with
  | nil => rfl
  | cons change rest ih =>
      obtain ⟨habove, hascending⟩ := List.pairwise_cons.mp hascending
      simp only [List.foldl_cons]
      rw [ih _ hascending]
      by_cases hsame : change.1 = name
      · have none : rest.find? (·.1 == name) = none :=
          find?_eq_none_of_forall_lt fun entry hmember => hsame ▸ habove entry hmember
        cases value : change.2 <;> simp [none, hsame, value, get?_erase]
      · cases value : change.2 <;> simp [hsame, get?_insert, get?_erase]

namespace Credentials

def patchAnnotations (changes : Dictionary (Option String)) (resource : Credentials) :
    Credentials :=
  let annotations := (resource.metadata.annotations.getD {}).patch changes
  { resource with metadata := { resource.metadata with annotations := some annotations } }

theorem annotationOf?_patchAnnotations (changes : Dictionary (Option String)) (key : String)
    (resource : Credentials) :
    (resource.patchAnnotations changes).annotationOf? key =
      (changes.get? key).getD (resource.annotationOf? key) := by
  cases hfound : resource.metadata.annotations with
  | none =>
      simp [patchAnnotations, annotationOf?, hfound, Dictionary.get?_patch,
        EmptyCollection.emptyCollection]
  | some annotations => simp [patchAnnotations, annotationOf?, hfound, Dictionary.get?_patch]

end Credentials

namespace Issuance

inductive Write where
  | annotations (changes : Dictionary (Option String))
  | finalizers (finalizers : List String)
  | status (copy : Credentials)

def Write.apply : Write → Credentials → Credentials
  | .annotations changes, stored => stored.patchAnnotations changes
  | .finalizers list, stored => stored.setFinalizers list
  | .status copy, stored => { stored with status := copy.status }

def Write.ofCall? : Pass.Call interface → Option Write
  | .updateAnnotations _ changes => some (.annotations changes)
  | .updateFinalizers _ list => some (.finalizers list)
  | .updateStatus copy => some (.status copy)
  | _ => none

def written? : Act → Option Write
  | .annotated _ changes (.ok ()) => some (.annotations changes)
  | .finalized _ finalizers (.ok ()) => some (.finalizers finalizers)
  | .reported copy (.ok ()) => some (.status copy)
  | _ => none

/-- A write that failed or was cut off, and that may take effect all the same. -/
def unsettled? : Act → Option Write
  | .annotated _ changes (.error _) => some (.annotations changes)
  | .finalized _ finalizers (.error _) => some (.finalizers finalizers)
  | .reported copy (.error _) => some (.status copy)
  | .lost call => Write.ofCall? call
  | _ => none

end Issuance

end BucketKeys
