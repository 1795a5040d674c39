import BucketKeys.Json.Decode
import BucketKeys.Time.Rfc3339

/-!
Conditions of a resource. A list holds at most one condition of a type unless it was written with
more; setting a condition replaces the first of its type, and leaves an equivalent one alone with
the time of its transition.
-/

namespace BucketKeys

structure Condition where
  type : String
  status : String
  lastTransitionTime : Option String
  reason : Option String
  message : Option String
  deriving DecidableEq, Repr

namespace Condition

def ready : String := "Ready"

def synced : String := "Synced"

def entered (now : Time.Instant) (type status reason : String) (message : Option String) :
    Condition :=
  ⟨type, status, some (Time.Rfc3339.transition now), some reason, message⟩

def available (now : Time.Instant) : Condition := entered now ready "True" "Available" none

def creating (now : Time.Instant) : Condition := entered now ready "False" "Creating" none

def deleting (now : Time.Instant) : Condition := entered now ready "False" "Deleting" none

def unavailable (now : Time.Instant) : Condition := entered now ready "False" "Unavailable" none

def reconcileSuccess (now : Time.Instant) : Condition :=
  entered now synced "True" "ReconcileSuccess" none

def reconcileError (message : String) (now : Time.Instant) : Condition :=
  entered now synced "False" "ReconcileError" (some message)

/-- All but the time of transition is the same. -/
def Equivalent (a b : Condition) : Prop :=
  a.type = b.type ∧ a.status = b.status ∧ a.reason = b.reason ∧ a.message = b.message

instance (a b : Condition) : Decidable (a.Equivalent b) :=
  inferInstanceAs (Decidable (_ ∧ _ ∧ _ ∧ _))

theorem Equivalent.refl (a : Condition) : a.Equivalent a := ⟨rfl, rfl, rfl, rfl⟩

def set (condition : Condition) : List Condition → List Condition
  | [] => [condition]
  | first :: rest =>
    if first.type = condition.type then
      (if first.Equivalent condition then first else condition) :: rest
    else first :: set condition rest

def find? (type : String) (conditions : List Condition) : Option Condition :=
  conditions.find? (·.type == type)

theorem find?_set_of_ne {type : String} {condition : Condition} (h : condition.type ≠ type)
    (conditions : List Condition) : find? type (condition.set conditions) = find? type conditions := by
  unfold find?
  induction conditions with
  | nil => simp [set, h]
  | cons first rest ih =>
    unfold set
    split
    · rename_i hsame
      split <;> simp [h, hsame]
    · by_cases htype : first.type = type
      · simp [htype]
      · simpa [htype] using ih

theorem find?_set (condition : Condition) (conditions : List Condition) :
    find? condition.type (condition.set conditions) =
      some ((find? condition.type conditions).elim condition fun first =>
        if first.Equivalent condition then first else condition) := by
  unfold find?
  induction conditions with
  | nil => simp [set]
  | cons first rest ih =>
    unfold set
    split
    · rename_i hsame
      split <;> rename_i hequivalent <;> simp [hsame, hequivalent]
    · rename_i hother
      simpa [hother] using ih

def toJson (condition : Condition) : Json :=
  .object
    [("type", .string condition.type), ("status", .string condition.status),
     ("lastTransitionTime", Json.ofOption .string condition.lastTransitionTime),
     ("reason", Json.ofOption .string condition.reason),
     ("message", Json.ofOption .string condition.message)]

def ofJson? : Json.Decoder Condition := fun json => do
  let record ← Json.Record.ofJson?
    ["type", "status", "lastTransitionTime", "reason", "message"] json
  let text (name : String) :=
    record.defaulted name (Json.Decode.optional Json.Decode.string) none
  return ⟨← record.required "type" Json.Decode.string,
    ← record.required "status" Json.Decode.string,
    ← text "lastTransitionTime", ← text "reason", ← text "message"⟩

end Condition

end BucketKeys
