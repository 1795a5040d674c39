import BucketKeys.Proofs.Course.Basic
import BucketKeys.Proofs.Course.Bookkeeping
import BucketKeys.Proofs.Issuance.Knowledge

/-!
The clock and the token service as a course relies on them.
-/

namespace BucketKeys.Issuance

open TokenApi

open Time (Instant)

def reading? : Act → Option Instant
  | .read now => some now
  | _ => none

def readings (acts : List Act) : List Instant := acts.filterMap reading?

def latest? (acts : List Act) : Option Token := (created acts).head?

/-- The clock runs forward within the years that a stamp can tell, and tokens have names. -/
structure Orderly (acts : List Act) : Prop where
  regular : ∀ now ∈ readings acts, now.Regular
  increasing : (readings acts).Pairwise (fun later sooner => sooner < later)
  named : ∀ token ∈ created acts, token.id ≠ ""

instance (acts : List Act) : Decidable (Orderly acts) :=
  decidable_of_iff ((∀ now ∈ readings acts, now.Regular) ∧
      (readings acts).Pairwise (fun later sooner => sooner < later) ∧
        ∀ token ∈ created acts, token.id ≠ "")
    ⟨fun h => ⟨h.1, h.2.1, h.2.2⟩, fun h => ⟨h.regular, h.increasing, h.named⟩⟩

theorem readings_cons (act : Act) (before : List Act) :
    readings (act :: before) = (reading? act).toList ++ readings before := by
  simp only [readings, List.filterMap_cons]
  cases reading? act <;> rfl

theorem mem_readings_cons {act : Act} {before : List Act} {now : Instant}
    (hmember : now ∈ readings before) : now ∈ readings (act :: before) := by
  rw [readings_cons]
  exact List.mem_append_right _ hmember

theorem latest?_cons (act : Act) (before : List Act) :
    latest? (act :: before) = (created? act).or (latest? before) := by
  unfold latest?
  rw [created_cons]
  cases created? act <;> rfl

theorem mem_created_of_latest? {acts : List Act} {token : Token}
    (hlatest : latest? acts = some token) : token ∈ created acts :=
  List.mem_of_head? hlatest

namespace Orderly

variable {act : Act} {before : List Act}

theorem tail (horderly : Orderly (act :: before)) : Orderly before where
  regular now member := horderly.regular now (mem_readings_cons member)
  increasing := by
    have increasing := horderly.increasing
    rw [readings_cons] at increasing
    exact (List.pairwise_append.mp increasing).2.1
  named token member := by
    refine horderly.named token ?_
    rw [created_cons]
    exact List.mem_append_right _ member

theorem sooner {now : Instant} (horderly : Orderly (.read now :: before)) :
    ∀ earlier ∈ readings before, earlier < now :=
  (List.pairwise_cons.mp horderly.increasing).1

theorem named_latest (horderly : Orderly before) {token : Token}
    (hlatest : latest? before = some token) : token.id ≠ "" :=
  horderly.named token (mem_created_of_latest? hlatest)

end Orderly

end BucketKeys.Issuance
