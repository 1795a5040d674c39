import BucketKeys.Resource.Bookkeeping

/-!
What a resource says of itself by its conditions, and what of it lasts when it is changed.
-/

namespace BucketKeys

namespace Condition

/-- The first condition of a type gives way to another one, unless that says the same, and all
others stay as they are and where they are. -/
inductive Placed (condition : Condition) : List Condition → List Condition → Prop where
  | replaced {earlier later : List Condition} {former : Condition}
      (absent : ∀ other ∈ earlier, other.type ≠ condition.type)
      (same : former.type = condition.type) :
      Placed condition (earlier ++ former :: later)
        (earlier ++ (if former.Equivalent condition then former else condition) :: later)
  | appended {conditions : List Condition}
      (absent : ∀ other ∈ conditions, other.type ≠ condition.type) :
      Placed condition conditions (conditions ++ [condition])

theorem placed_set (condition : Condition) (conditions : List Condition) :
    Placed condition conditions (condition.set conditions) := by
  induction conditions with
  | nil => exact .appended (by rintro other ⟨⟩)
  | cons first rest ih =>
      unfold set
      split
      · rename_i hsame
        have first : ∀ other ∈ ([] : List Condition), other.type ≠ condition.type := by
          rintro other ⟨⟩
        exact .replaced first hsame
      · rename_i other
        generalize condition.set rest = changed at ih
        cases ih with
        | replaced habsent hsame =>
            exact .replaced (List.forall_mem_cons.mpr ⟨other, habsent⟩) hsame
        | appended habsent => exact .appended (List.forall_mem_cons.mpr ⟨other, habsent⟩)

theorem Equivalent.trans {first second third : Condition} (hleft : first.Equivalent second)
    (hright : second.Equivalent third) : first.Equivalent third :=
  ⟨hleft.1.trans hright.1, hleft.2.1.trans hright.2.1, hleft.2.2.1.trans hright.2.2.1,
    hleft.2.2.2.trans hright.2.2.2⟩

def Said (condition : Condition) (conditions : List Condition) : Prop :=
  ∃ first, find? condition.type conditions = some first ∧ first.Equivalent condition

theorem said_set (condition : Condition) (conditions : List Condition) :
    Said condition (condition.set conditions) := by
  refine ⟨_, find?_set condition conditions, ?_⟩
  cases find? condition.type conditions with
  | none => exact .refl condition
  | some first =>
      by_cases hsame : first.Equivalent condition
      · simp [hsame]
      · simp [hsame, Equivalent.refl]

theorem Said.equivalent {first second : Condition} {conditions : List Condition}
    (hsaid : Said first conditions) (hsame : first.Equivalent second) : Said second conditions := by
  obtain ⟨found, first, hequivalent⟩ := hsaid
  exact ⟨found, hsame.1 ▸ first, hequivalent.trans hsame⟩

theorem Said.set {condition other : Condition} {conditions : List Condition}
    (hsaid : Said condition conditions) (hapart : other.type ≠ condition.type) :
    Said condition (other.set conditions) := by
  obtain ⟨first, hfound, hsame⟩ := hsaid
  exact ⟨first, by rw [find?_set_of_ne hapart, hfound], hsame⟩

theorem Said.set_eq {condition : Condition} {conditions : List Condition}
    (hsaid : Said condition conditions) : condition.set conditions = conditions := by
  obtain ⟨first, hfound, hsame⟩ := hsaid
  induction conditions with
  | nil => cases hfound
  | cons head rest ih =>
      rw [find?, List.find?_cons] at hfound
      unfold Condition.set
      split
      · rename_i htype
        rw [htype, beq_self_eq_true] at hfound
        cases hfound
        rw [if_pos hsame]
      · rename_i htype
        rw [beq_eq_false_iff_ne.mpr htype] at hfound
        exact congrArg (head :: ·) (ih hfound)

end Condition

namespace Credentials

/-- The status, the reason and the message of the condition of a type. -/
def says? (type : String) (resource : Credentials) :
    Option (String × Option String × Option String) :=
  (Condition.find? type resource.conditions).map fun condition =>
    (condition.status, condition.reason, condition.message)

theorem says?_setCondition (condition : Condition) (resource : Credentials) :
    (resource.setCondition condition).says? condition.type =
      some (condition.status, condition.reason, condition.message) := by
  rw [says?, conditions_setCondition, Condition.find?_set]
  cases Condition.find? condition.type resource.conditions with
  | none => rfl
  | some first =>
      by_cases hsame : first.Equivalent condition
      · have ⟨_, hstatus, hreason, hmessage⟩ := hsame
        simp [hsame, hstatus, hreason, hmessage]
      · simp [hsame]

theorem says?_entered (now : Time.Instant) (type status reason : String)
    (message : Option String) (resource : Credentials) :
    (resource.setCondition (.entered now type status reason message)).says? type =
      some (status, some reason, message) :=
  says?_setCondition (.entered now type status reason message) resource

theorem says?_setCondition_of_ne {type : String} {condition : Condition}
    (hother : condition.type ≠ type) (resource : Credentials) :
    (resource.setCondition condition).says? type = resource.says? type := by
  rw [says?, says?, conditions_setCondition, Condition.find?_set_of_ne hother]

def observed (resource : Credentials) : TokenObservation :=
  (resource.status.map (·.atProvider)).getD {}

@[simp] theorem observed_setObservation (observation : TokenObservation)
    (resource : Credentials) : (resource.setObservation observation).observed = observation := rfl

@[simp] theorem observed_setCondition (condition : Condition) (resource : Credentials) :
    (resource.setCondition condition).observed = resource.observed := by
  cases hstatus : resource.status <;> simp [setCondition, observed, hstatus]

end Credentials

end BucketKeys
