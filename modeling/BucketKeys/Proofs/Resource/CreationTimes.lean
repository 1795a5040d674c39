import BucketKeys.Proofs.Time.Stamp
import BucketKeys.Resource.Bookkeeping

/-!
What a resource remembers of a creation by the times around it, in whatever way they are written.
-/

namespace BucketKeys

open Time (Instant)
open Time.Rfc3339 (stamp Spells Unspelled)

structure CreationTimes where
  pending : Instant
  succeeded : Option Instant
  failed : Option Instant

namespace CreationTimes

structure Regular (times : CreationTimes) : Prop where
  pending : times.pending.Regular
  succeeded : ∀ time ∈ times.succeeded, time.Regular
  failed : ∀ time ∈ times.failed, time.Regular

/-- The creation began strictly later than both outcomes, so far as there are any. -/
def IsOpen (times : CreationTimes) : Prop :=
  (∀ time ∈ times.succeeded, time.sinceEpoch < times.pending.sinceEpoch) ∧
    ∀ time ∈ times.failed, time.sinceEpoch < times.pending.sinceEpoch

end CreationTimes

namespace Credentials

open Bookkeeping

variable {resource other : Credentials} {times : CreationTimes} {key : String}

/-- The annotations hold texts that mean the times, and none for a time that is missing. -/
structure Notes (means : String → Instant → Prop) (times : CreationTimes) (resource : Credentials) :
    Prop where
  pending : Option.Rel means (resource.annotationOf? pendingKey) (some times.pending)
  succeeded : Option.Rel means (resource.annotationOf? succeededKey) times.succeeded
  failed : Option.Rel means (resource.annotationOf? failedKey) times.failed

/-- An annotation is missing, or its text is not read as a time. -/
def Undated (key : String) (resource : Credentials) : Prop :=
  ∀ text, resource.annotationOf? key = some text → Unspelled text

theorem annotationTime?_of_undated (hundated : resource.Undated key) :
    resource.annotationTime? key = none := by
  rw [annotationTime?]
  cases hfound : resource.annotationOf? key with
  | none => rfl
  | some text => exact Time.Rfc3339.read?_eq_none_iff.mpr (hundated text hfound)

theorem annotationTime?_of_spelled {time : Option Instant}
    (hspelled : Option.Rel Spells (resource.annotationOf? key) time) :
    resource.annotationTime? key = time := by
  rw [annotationTime?]
  generalize resource.annotationOf? key = found at hspelled
  cases hspelled with
  | none => rfl
  | some hspells => exact hspells.read?_eq

theorem createIncomplete_iff :
    resource.createIncomplete = true ↔
      ∃ pending, resource.annotationTime? pendingKey = some pending ∧
        (∀ time ∈ resource.annotationTime? succeededKey, time < pending) ∧
          ∀ time ∈ resource.annotationTime? failedKey, time < pending := by
  simp only [createIncomplete]
  generalize resource.annotationTime? succeededKey = succeeded
  generalize resource.annotationTime? failedKey = failed
  cases resource.annotationTime? pendingKey with
  | none => simp
  | some pending => cases succeeded <;> cases failed <;> simp

theorem createIncomplete_congr
    (hsame : ∀ key ∈ [pendingKey, succeededKey, failedKey],
      resource.annotationTime? key = other.annotationTime? key) :
    resource.createIncomplete = other.createIncomplete := by
  simp only [List.forall_mem_cons] at hsame
  obtain ⟨pending, hsucceeded, hfailed, -⟩ := hsame
  simp only [createIncomplete, pending, hsucceeded, hfailed]

theorem createIncomplete_of_spelled (hregular : times.Regular)
    (hnotes : resource.Notes Spells times) : resource.createIncomplete = true ↔ times.IsOpen := by
  have hearlier {outcome : Option Instant} (hregulars : ∀ time ∈ outcome, time.Regular) :
      (∀ time ∈ outcome, time < times.pending) ↔
        ∀ time ∈ outcome, time.sinceEpoch < times.pending.sinceEpoch :=
    forall₂_congr fun time hmember =>
      Instant.lt_iff_sinceEpoch (hregulars time hmember) hregular.pending
  rw [createIncomplete_iff, annotationTime?_of_spelled hnotes.pending,
    annotationTime?_of_spelled hnotes.succeeded, annotationTime?_of_spelled hnotes.failed,
    CreationTimes.IsOpen, ← hearlier hregular.succeeded, ← hearlier hregular.failed]
  simp

theorem Notes.spelled (hregular : times.Regular)
    (hnotes : resource.Notes (fun text time => text = stamp time) times) :
    resource.Notes Spells times := by
  have hspelled {found : Option String} {time : Option Instant}
      (hregulars : ∀ instant ∈ time, instant.Regular)
      (hstamped : Option.Rel (fun text time => text = stamp time) found time) :
      Option.Rel Spells found time := by
    cases hstamped with
    | none => exact .none
    | some hsame => exact .some (hsame ▸ Time.Rfc3339.spells_stamp (hregulars _ rfl))
  refine ⟨hspelled ?_ hnotes.pending, hspelled hregular.succeeded hnotes.succeeded,
    hspelled hregular.failed hnotes.failed⟩
  rintro _ ⟨⟩
  exact hregular.pending

/-- What is judged by the times on a resource: whether a creation of it may still be under way. -/
structure Judged (resource : Credentials) : Prop where
  stamped : ∀ times : CreationTimes, times.Regular →
    resource.Notes (fun text time => text = stamp time) times →
      (resource.createIncomplete = true ↔ times.IsOpen)
  spelled : ∀ times : CreationTimes, times.Regular → resource.Notes Spells times →
    (resource.createIncomplete = true ↔ times.IsOpen)
  undated : resource.Undated pendingKey → resource.createIncomplete = false
  discounted : ∀ other : Credentials,
    other.annotationOf? pendingKey = resource.annotationOf? pendingKey →
      (∀ key ∈ [succeededKey, failedKey], other.annotationOf? key = resource.annotationOf? key ∨
        other.annotationOf? key = none ∧ resource.Undated key) →
          resource.createIncomplete = other.createIncomplete

/-- A creation is taken to be under way by the instants that the annotations mean, in whatever zone
and with however many digits they are written. -/
theorem creation_times_judged (resource : Credentials) : resource.Judged where
  stamped _ hregular notes := createIncomplete_of_spelled hregular (notes.spelled hregular)
  spelled _ hregular notes := createIncomplete_of_spelled hregular notes
  undated undated := by
    rw [createIncomplete, annotationTime?_of_undated undated]
  discounted other pending outcomes := by
    apply createIncomplete_congr
    refine List.forall_mem_cons.mpr ⟨by rw [annotationTime?, annotationTime?, pending], ?_⟩
    intro key hmember
    rcases outcomes key hmember with hsame | ⟨hmissing, undated⟩
    · rw [annotationTime?, annotationTime?, hsame]
    · have habsent : other.annotationTime? key = none := by rw [annotationTime?, hmissing]; rfl
      rw [annotationTime?_of_undated undated, habsent]

def ofAnnotations (annotations : Dictionary String) : Credentials where
  metadata := { name := some "media", annotations := some annotations }
  spec := ⟨⟨"account", none, "media-token", []⟩, some .fallback, none, .delete⟩
  status := none

def zoned : Credentials :=
  ofAnnotations (.ofList
    [(pendingKey, "2024-03-01T01:00:00.5+02:00"), (succeededKey, "2024-02-29t23:00:00.000Z")])

theorem creation_times_judged_zoned :
    ∃ times : CreationTimes, times.Regular ∧ zoned.Notes Spells times ∧
      zoned.createIncomplete = true := by
  let times : CreationTimes := ⟨⟨1709247600, 500000000⟩, some ⟨1709247600, 0⟩, none⟩
  have hregular : times.Regular := by
    refine ⟨by decide, ?_, ?_⟩
    · intro time htime
      cases htime
      decide
    · intro time htime
      cases htime
  have hbegun : Spells "2024-03-01T01:00:00.5+02:00" times.pending :=
    ⟨⟨2024, 3, 1, 'T', 1, 0, 0, ['5'], .shifted '+' 2 0⟩,
      ⟨by decide, by decide, .inl rfl, by decide, by decide, by decide,
        List.all_eq_true.mp (by decide), by decide⟩,
      by decide, ⟨by decide, by decide, by decide⟩⟩
  have hended : Spells "2024-02-29t23:00:00.000Z" ⟨1709247600, 0⟩ :=
    ⟨⟨2024, 2, 29, 't', 23, 0, 0, ['0', '0', '0'], .utc 'Z'⟩,
      ⟨by decide, by decide, .inr (.inl rfl), by decide, by decide, by decide,
        List.all_eq_true.mp (by decide), by decide⟩,
      by decide, ⟨by decide, by decide, by decide⟩⟩
  have hnotes : zoned.Notes Spells times := ⟨.some hbegun, .some hended, .none⟩
  refine ⟨times, hregular, hnotes, ?_⟩
  apply ((creation_times_judged zoned).spelled times hregular hnotes).mpr
  refine ⟨?_, ?_⟩
  · intro time htime
    cases htime
    decide
  · intro time htime
    cases htime

/-- A text that is not of the standard, and counts all the same. -/
theorem minus_sign_dated :
    let text := "2024-06-01T12:34:56\u221200:00"
    ¬ Time.Rfc3339.IsStandard text ∧
      (ofAnnotations (.singleton pendingKey text)).annotationOf? pendingKey = some text ∧
        (ofAnnotations (.singleton pendingKey text)).createIncomplete = true := by
  refine ⟨Time.Rfc3339.not_isStandard_of_minus (by decide), rfl, by decide +kernel⟩

end Credentials

end BucketKeys
