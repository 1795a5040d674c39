import BucketKeys.Proofs.Resource.Conditions
import Mathlib.Data.List.Induction
import Mathlib.Data.List.Nodup

/-!
What is left of the conditions that were set one after the other. Of each type it is the earliest
one that was not contradicted since, and no type changes its place.
-/

namespace BucketKeys.Condition

def setAll (updates conditions : List Condition) : List Condition :=
  updates.foldl (fun conditions condition => condition.set conditions) conditions

/-- All that was said of a type: by the first condition that was there, and by those that were
set. -/
def history (type : String) (updates conditions : List Condition) : List Condition :=
  (conditions.find? (·.type == type)).toList ++ updates.filter (·.type == type)

def Uniform (conditions : List Condition) : Prop :=
  ∀ first ∈ conditions, ∀ second ∈ conditions, first.Equivalent second

/-- The earliest one from which on all are equivalent. -/
def Standing (conditions : List Condition) (condition : Condition) : Prop :=
  ∃ later, condition :: later <:+ conditions ∧ Uniform (condition :: later) ∧
    ∀ longer, longer <:+ conditions → Uniform longer → longer.length ≤ (condition :: later).length

variable {type : String} {condition : Condition} {conditions updates : List Condition}

theorem setAll_concat (updates : List Condition) (condition : Condition)
    (conditions : List Condition) :
    setAll (updates ++ [condition]) conditions = condition.set (setAll updates conditions) := by
  rw [setAll, List.foldl_append]
  rfl

theorem Equivalent.symm {first second : Condition} (hsame : first.Equivalent second) :
    second.Equivalent first :=
  ⟨hsame.1.symm, hsame.2.1.symm, hsame.2.2.1.symm, hsame.2.2.2.symm⟩

theorem history_concat (type : String) (updates : List Condition) (condition : Condition)
    (conditions : List Condition) :
    history type (updates ++ [condition]) conditions =
      history type updates conditions ++ if condition.type = type then [condition] else [] := by
  rw [history, history, List.filter_append, List.append_assoc]
  simp only [List.filter_cons, List.filter_nil, beq_iff_eq]

theorem uniform_singleton (condition : Condition) : Uniform [condition] := by
  intro first hmember second hother
  rw [List.mem_singleton.mp hmember, List.mem_singleton.mp hother]
  exact .refl condition

theorem Uniform.concat (huniform : Uniform conditions)
    (hsame : ∀ first ∈ conditions, first.Equivalent condition) :
    Uniform (conditions ++ [condition]) := by
  intro first hmember second hother
  rcases List.mem_append.mp hmember with hmember | hmember
  · rcases List.mem_append.mp hother with hother | hother
    · exact huniform first hmember second hother
    · rw [List.mem_singleton.mp hother]
      exact hsame first hmember
  · rw [List.mem_singleton.mp hmember]
    rcases List.mem_append.mp hother with hother | hother
    · exact (hsame second hother).symm
    · rw [List.mem_singleton.mp hother]
      exact .refl condition

theorem Uniform.of_concat (huniform : Uniform (conditions ++ [condition])) :
    Uniform conditions ∧ ∀ first ∈ conditions, first.Equivalent condition :=
  ⟨fun first hmember second hother =>
      huniform first (List.mem_append_left _ hmember) second (List.mem_append_left _ hother),
    fun first hmember =>
      huniform first (List.mem_append_left _ hmember) condition (List.mem_append_right _ (.head _))⟩

theorem Standing.mem (hstanding : Standing conditions condition) : condition ∈ conditions := by
  obtain ⟨later, hsuffix, -, -⟩ := hstanding
  exact hsuffix.subset (.head _)

theorem Standing.unique {first second : Condition} (hone : Standing conditions first)
    (hother : Standing conditions second) : first = second := by
  obtain ⟨later, hsuffix, huniform, hlongest⟩ := hone
  obtain ⟨others, hsuffix', huniform', hlongest'⟩ := hother
  have hlength := Nat.le_antisymm (hlongest' _ hsuffix huniform) (hlongest _ hsuffix' huniform')
  have hsame := List.suffix_of_suffix_length_le hsuffix hsuffix' (Nat.le_of_eq hlength)
  exact (List.cons.inj (hsame.eq_of_length hlength)).1

theorem standing_singleton (condition : Condition) : Standing [condition] condition := by
  exact ⟨[], List.suffix_rfl, uniform_singleton condition,
      fun longer hsuffix _ => hsuffix.length_le⟩

theorem Standing.confirmed {first : Condition} (hstanding : Standing conditions first)
    (hsame : first.Equivalent condition) : Standing (conditions ++ [condition]) first := by
  obtain ⟨later, hsuffix, huniform, hlongest⟩ := hstanding
  refine ⟨later ++ [condition], ?_, ?_, ?_⟩
  · exact (List.suffix_append_inj_of_length_eq rfl).mpr ⟨hsuffix, rfl⟩
  · exact huniform.concat fun other hmember => (huniform other hmember first (.head _)).trans hsame
  · intro longer hpart halike
    rcases List.suffix_concat_iff.mp hpart with rfl | ⟨shorter, rfl, hend_of⟩
    · exact Nat.zero_le _
    · have hbound := hlongest shorter hend_of halike.of_concat.1
      simp only [List.length_append, List.length_cons] at hbound ⊢
      omega

theorem Standing.contradicted {first : Condition} (hstanding : Standing conditions first)
    (hapart : ¬ first.Equivalent condition) : Standing (conditions ++ [condition]) condition := by
  obtain ⟨later, hsuffix, huniform, -⟩ := hstanding
  refine ⟨[], List.suffix_append .., uniform_singleton condition, ?_⟩
  intro longer hpart halike
  rcases List.suffix_concat_iff.mp hpart with rfl | ⟨shorter, rfl, hend_of⟩
  · exact Nat.zero_le _
  · have halike := halike.of_concat.2
    -- Of two ends of one list, one is an end of the other.
    cases shorter with
    | nil => exact Nat.le_refl _
    | cons head rest =>
        rcases Nat.le_total (head :: rest).length (first :: later).length with hshort | hlong
        · have hwithin := (List.suffix_of_suffix_length_le hend_of hsuffix hshort).subset (.head _)
          exact absurd
              ((huniform first (.head _) head hwithin).trans (halike head (.head _))) hapart
        · have hwithin := (List.suffix_of_suffix_length_le hsuffix hend_of hlong).subset (.head _)
          exact absurd (halike first hwithin) hapart

theorem found_setAll (type : String) (updates conditions : List Condition) :
    (find? type (setAll updates conditions)).elim (history type updates conditions = [])
      (Standing (history type updates conditions)) := by
  induction updates using List.reverseRecOn with
  | nil =>
      rw [history, List.filter_nil, List.append_nil]
      change (conditions.find? _).elim _ _
      cases conditions.find? (·.type == type) with
      | none => rfl
      | some first => exact standing_singleton first
  | append_singleton updates condition ih =>
      rw [setAll_concat, history_concat]
      by_cases hother : condition.type = type
      · subst hother
        rw [find?_set, if_pos rfl]
        cases hfound : find? condition.type (setAll updates conditions) with
        | none =>
            rw [hfound] at ih
            rw [show history condition.type updates conditions = [] from ih]
            exact standing_singleton condition
        | some first =>
            rw [hfound] at ih
            by_cases hsame : first.Equivalent condition
            · simpa only [Option.elim, if_pos hsame] using Standing.confirmed ih hsame
            · simpa only [Option.elim, if_neg hsame] using Standing.contradicted ih hsame
      · rwa [find?_set_of_ne hother, if_neg hother, List.append_nil]

theorem types_set (condition : Condition) (conditions : List Condition) :
    (condition.set conditions).map (·.type) =
      conditions.map (·.type) ++
        if condition.type ∈ conditions.map (·.type) then [] else [condition.type] := by
  have hplaced := placed_set condition conditions
  generalize condition.set conditions = changed at hplaced
  cases hplaced with
  | @replaced earlier later former habsent hsame =>
      have hkept :
          (if former.Equivalent condition then former else condition).type = former.type := by
        split
        · rfl
        · exact hsame.symm
      simp [hkept, ← hsame]
  | appended habsent =>
      rw [if_neg (by simpa using habsent), List.map_append, List.map_singleton]

theorem eraseDups_filter_concat (known names : List String) (name : String) :
    ((names ++ [name]).filter (· ∉ known)).eraseDups =
      (names.filter (· ∉ known)).eraseDups ++
        if name ∈ known ++ (names.filter (· ∉ known)).eraseDups then [] else [name] := by
  rw [List.filter_append, List.eraseDups_append]
  by_cases hold : name ∈ known
  · simp [hold, List.removeAll]
  · by_cases hseen : name ∈ names
    · simp [hold, hseen, List.removeAll]
    · simp [hold, hseen, List.removeAll, List.eraseDups_cons]

theorem types_setAll (updates conditions : List Condition) :
    (setAll updates conditions).map (·.type) =
      conditions.map (·.type) ++
        ((updates.map (·.type)).filter (· ∉ conditions.map (·.type))).eraseDups := by
  induction updates using List.reverseRecOn with
  | nil => simp [setAll]
  | append_singleton updates condition ih =>
      rw [setAll_concat, types_set, ih, List.map_append, List.map_singleton,
        eraseDups_filter_concat, List.append_assoc]

theorem nodup_set (hdistinct : (conditions.map (·.type)).Nodup) (condition : Condition) :
    ((condition.set conditions).map (·.type)).Nodup := by
  rw [types_set]
  split
  · rwa [List.append_nil]
  · rename_i absent
    refine List.nodup_append.mpr ⟨hdistinct, List.nodup_singleton _, ?_⟩
    rintro type hmember _ only rfl
    exact absent (List.mem_singleton.mp only ▸ hmember)

theorem nodup_setAll (hdistinct : (conditions.map (·.type)).Nodup) (updates : List Condition) :
    ((setAll updates conditions).map (·.type)).Nodup := by
  induction updates generalizing conditions with
  | nil => exact hdistinct
  | cons condition later ih => exact ih (nodup_set hdistinct condition)

def Behind (conditions : List Condition) (index : Nat) (duplicate : Condition) : Prop :=
  conditions[index]? = some duplicate ∧ duplicate.type ∈ (conditions.take index).map (·.type)

theorem Behind.set {index : Nat} {duplicate : Condition}
    (hbehind : Behind conditions index duplicate) (condition : Condition) :
    Behind (condition.set conditions) index duplicate := by
  obtain ⟨hpresent, hbefore⟩ := hbehind
  have hwithin := (List.getElem?_eq_some_iff.mp hpresent).1
  refine ⟨?_, ?_⟩
  · have hplaced := placed_set condition conditions
    generalize condition.set conditions = changed at hplaced
    cases hplaced with
    | @replaced earlier later former habsent hsame =>
        -- What is replaced is the first of its type, and so no duplicate.
        have helsewhere : index ≠ earlier.length := by
          rintro rfl
          rw [List.getElem?_append_right (Nat.le_refl _), Nat.sub_self, List.getElem?_cons_zero]
            at hpresent
          cases hpresent
          rw [List.take_left, hsame] at hbefore
          obtain ⟨other, hmember, type⟩ := List.mem_map.mp hbefore
          exact habsent other hmember type
        rw [← hpresent]
        simp only [List.getElem?_append, List.getElem?_cons]
        split
        · rfl
        · rw [if_neg (by omega), if_neg (by omega)]
    | appended habsent => rw [List.getElem?_append_left hwithin, hpresent]
  · rw [List.map_take, types_set, List.take_append_of_le_length
        (by simpa using Nat.le_of_lt hwithin)]
    rwa [← List.map_take]

theorem Behind.setAll {index : Nat} {duplicate : Condition}
    (hbehind : Behind conditions index duplicate) (updates : List Condition) :
    Behind (setAll updates conditions) index duplicate := by
  induction updates generalizing conditions with
  | nil => exact hbehind
  | cons condition later ih => exact ih (hbehind.set condition)

/-- What is found of each type after some updates, and where. -/
structure Settled (updates conditions : List Condition) : Prop where
  absent : ∀ type, find? type (setAll updates conditions) = none ↔
    history type updates conditions = []
  standing : ∀ type condition, find? type (setAll updates conditions) = some condition ↔
    Standing (history type updates conditions) condition
  types : (setAll updates conditions).map (·.type) =
    conditions.map (·.type) ++
      ((updates.map (·.type)).filter (· ∉ conditions.map (·.type))).eraseDups
  duplicates : ∀ index duplicate, conditions[index]? = some duplicate →
    duplicate.type ∈ (conditions.take index).map (·.type) →
      (setAll updates conditions)[index]? = some duplicate
  distinct : (conditions.map (·.type)).Nodup → ((setAll updates conditions).map (·.type)).Nodup

theorem settled_setAll (updates conditions : List Condition) : Settled updates conditions where
  absent type := by
    have found := found_setAll type updates conditions
    cases present : find? type (setAll updates conditions) with
    | none =>
        rw [present] at found
        exact iff_of_true rfl found
    | some first =>
        rw [present] at found
        exact iff_of_false nofun (List.ne_nil_of_mem (Standing.mem found))
  standing type condition := by
    have found := found_setAll type updates conditions
    cases present : find? type (setAll updates conditions) with
    | none =>
        rw [present] at found
        rw [show history type updates conditions = [] from found]
        exact iff_of_false nofun fun standing => nomatch standing.mem
    | some first =>
        rw [present] at found
        constructor
        · rintro ⟨⟩
          exact found
        · exact fun standing => congrArg some (Standing.unique found standing)
  types := types_setAll updates conditions
  duplicates index duplicate present before := (Behind.setAll ⟨present, before⟩ updates).1
  distinct distinct := nodup_setAll distinct updates

/-- A message that was given up for a while stands from its return. -/
example :
    find? "Synced" (setAll
      [⟨"Synced", "False", some "2", some "ReconcileError", some "busy"⟩,
        ⟨"Ready", "True", some "3", some "Available", none⟩,
        ⟨"Synced", "False", some "4", some "ReconcileError", some "lost"⟩,
        ⟨"Synced", "False", some "5", some "ReconcileError", some "lost"⟩]
      [⟨"Synced", "False", some "1", some "ReconcileError", some "lost"⟩]) =
        some ⟨"Synced", "False", some "4", some "ReconcileError", some "lost"⟩ := by
  decide

end BucketKeys.Condition
