import BucketKeys.Proofs.Course.Store
import BucketKeys.Proofs.Time.Stamp

/-!
What the writes of a pass do to the bookkeeping on the stored resource.
-/

namespace BucketKeys

open Bookkeeping

open Time (Instant)

@[simp] theorem Dictionary.get?_singleton (name other : String) (value : α) :
    (Dictionary.singleton name value).get? other = if name = other then some value else none := by
  by_cases hsame : name = other <;> simp [singleton, get?, hsame]

namespace Credentials

structure SameBookkeeping (first second : Credentials) : Prop where
  externalName : first.annotationOf? externalNameKey = second.annotationOf? externalNameKey
  pending : first.annotationOf? pendingKey = second.annotationOf? pendingKey
  succeeded : first.annotationOf? succeededKey = second.annotationOf? succeededKey
  failed : first.annotationOf? failedKey = second.annotationOf? failedKey

namespace SameBookkeeping

variable {first second third : Credentials}

theorem refl (resource : Credentials) : SameBookkeeping resource resource := ⟨rfl, rfl, rfl, rfl⟩

theorem trans (hleft : SameBookkeeping first second) (hright : SameBookkeeping second third) :
    SameBookkeeping first third :=
  ⟨hleft.externalName.trans hright.externalName, hleft.pending.trans hright.pending,
    hleft.succeeded.trans hright.succeeded, hleft.failed.trans hright.failed⟩

theorem externalName? (hsame : SameBookkeeping first second) :
    first.externalName? = second.externalName? := by
  simp only [Credentials.externalName?, hsame.externalName]

theorem createIncomplete (hsame : SameBookkeeping first second) :
    first.createIncomplete = second.createIncomplete := by
  simp only [Credentials.createIncomplete, annotationTime?, hsame.pending, hsame.succeeded,
    hsame.failed]

end SameBookkeeping

def OutcomeKey (key : String) : Prop :=
  key = succeededKey ∨ key = failedKey

theorem createIncomplete_of_later {resource : Credentials} {pending : Instant}
    (hannounced : resource.annotationTime? pendingKey = some pending)
    (hlater : ∀ key, OutcomeKey key → ∀ time, resource.annotationTime? key = some time →
      time < pending) : resource.createIncomplete = true := by
  simp only [createIncomplete, hannounced, Bool.and_eq_true]
  constructor
  · split
    · rfl
    · rename_i time recorded
      exact decide_eq_true (hlater succeededKey (.inl rfl) time recorded)
  · split
    · rfl
    · rename_i time recorded
      exact decide_eq_true (hlater failedKey (.inr rfl) time recorded)

section

variable {resource : Credentials} {changes : Dictionary (Option String)}

theorem externalName?_patchAnnotations_of_none (habsent : changes.get? externalNameKey = none) :
    (resource.patchAnnotations changes).externalName? = resource.externalName? := by
  simp [externalName?, annotationOf?_patchAnnotations, habsent]

theorem externalName?_patchAnnotations_of_some {name : String} (hnamed : name ≠ "")
    (hpresent : changes.get? externalNameKey = some (some name)) :
    (resource.patchAnnotations changes).externalName? = some name := by
  simp [externalName?, annotationOf?_patchAnnotations, hpresent, hnamed]

theorem annotationOf?_patchAnnotations_of_none {key : String} (habsent : changes.get? key = none) :
    (resource.patchAnnotations changes).annotationOf? key = resource.annotationOf? key := by
  rw [annotationOf?_patchAnnotations, habsent, Option.getD_none]

end

theorem createIncomplete_announced {resource : Credentials} {now : Instant} (hregular : now.Regular)
    (hlater : ∀ key, OutcomeKey key → ∀ time, resource.annotationTime? key = some time →
      time < now) :
    (resource.patchAnnotations
      (.singleton pendingKey (some (Time.Rfc3339.stamp now)))).createIncomplete = true := by
  have hannounced : (resource.patchAnnotations
      (.singleton pendingKey (some (Time.Rfc3339.stamp now)))).annotationTime? pendingKey =
        some now := by
    simp [annotationTime?, annotationOf?_patchAnnotations, Time.Rfc3339.read?_stamp hregular]
  refine createIncomplete_of_later hannounced fun key houtcome time hrecorded => ?_
  have hother : pendingKey ≠ key := by rcases houtcome with rfl | rfl <;> decide
  rw [annotationTime?, annotationOf?_patchAnnotations_of_none (by simp [hother])] at hrecorded
  exact hlater key houtcome time hrecorded

end Credentials

namespace Issuance

theorem Write.annotations_or_same (write : Write) (stored : Credentials) :
    (∃ changes, write = .annotations changes) ∨
      Credentials.SameBookkeeping (write.apply stored) stored := by
  cases write with
  | annotations changes => exact .inl ⟨changes, rfl⟩
  | finalizers list => exact .inr ⟨rfl, rfl, rfl, rfl⟩
  | status copy => exact .inr ⟨rfl, rfl, rfl, rfl⟩

theorem get?_successAnnotations_externalName (succeeded : String) (name : Option String) :
    (Pass.successAnnotations succeeded name).get? externalNameKey = name.map some := by
  cases name with
  | none => simp [Pass.successAnnotations, succeededKey, externalNameKey]
  | some name => simp [Pass.successAnnotations]

theorem get?_successAnnotations_outcome {key : String} (houtcome : Credentials.OutcomeKey key)
    (succeeded : String) (name : Option String) :
    (Pass.successAnnotations succeeded name).get? key =
      if key = succeededKey then some (some succeeded) else none := by
  have hother : externalNameKey ≠ key := by rcases houtcome with rfl | rfl <;> decide
  cases name with
  | none => simp [Pass.successAnnotations, eq_comm]
  | some name => simp [Pass.successAnnotations, Dictionary.get?_insert, hother, eq_comm]

theorem recordedName_of_ne {token : TokenApi.Token} (hnamed : token.id ≠ "") :
    recordedName token = some token.id := by
  simp [recordedName, hnamed]

end Issuance

end BucketKeys
