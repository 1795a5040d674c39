import BucketKeys.Json.Decode
import BucketKeys.Json.MergePatch

/-!
An object to its readers: for each name the values that stand under it, in their order. Readers of
records and of sparse objects see no more of an object than that.
-/

namespace BucketKeys.Json

variable {members : List (String × Json)}

def named (name : String) (members : List (String × Json)) : List Json :=
  (members.filter (·.1 == name)).map (·.2)

theorem named_cons (name : String) (member : String × Json) (rest : List (String × Json)) :
    named name (member :: rest) =
      if member.1 = name then member.2 :: named name rest else named name rest := by
  by_cases hsame : member.1 = name <;> simp [named, hsame]

theorem lookup?_eq_getLast? (name : String) (members : List (String × Json)) :
    lookup? name members = (named name members).getLast? := by
  rw [lookup?, named, List.getLast?_map, ← List.head?_filter, List.filter_reverse,
    List.head?_reverse]

theorem named_removeName (name other : String) (members : List (String × Json)) :
    named other (removeName name members) = if name = other then [] else named other members := by
  induction members with
  | nil => simp [removeName, named]
  | cons member rest ih =>
      by_cases hremoved : member.1 = name
      · have hgone : removeName name (member :: rest) = removeName name rest := by
          simp [removeName, hremoved]
        rw [hgone, ih, named_cons, hremoved]
        by_cases hsame : name = other <;> simp [hsame]
      · have hkept : removeName name (member :: rest) = member :: removeName name rest := by
          simp [removeName, hremoved]
        rw [hkept, named_cons, named_cons, ih]
        by_cases hsame : name = other
        · simp [← hsame, hremoved]
        · simp [hsame]

theorem named_putName (name other : String) (value : Json) (members : List (String × Json)) :
    named other (putName name value members) =
      if name = other then [value] else named other members := by
  induction members with
  | nil => by_cases hsame : name = other <;> simp [putName, named, hsame]
  | cons member rest ih =>
      by_cases hfound : member.1 = name
      · simp only [putName, hfound, beq_self_eq_true, if_true, named_cons, named_removeName]
        by_cases hsame : name = other <;> simp [hsame]
      · simp only [putName, hfound, beq_iff_eq, if_false, named_cons, ih]
        by_cases hsame : name = other
        · simp [← hsame, hfound]
        · simp [hsame]

def change (target : List (String × Json)) : String × Json → List (String × Json)
  | (name, .null) => removeName name target
  | (name, value) => putName name (((lookup? name target).getD .null).mergePatch value) target

theorem mergeMembers_eq_foldl (target changes : List (String × Json)) :
    mergeMembers target changes = changes.foldl change target := by
  induction changes generalizing target with
  | nil => rfl
  | cons first rest ih =>
      obtain ⟨name, value⟩ := first
      cases value <;> exact ih _

def settled (old : List Json) : Json → List Json
  | .null => []
  | value => [(old.getLast?.getD .null).mergePatch value]

theorem named_change (name : String) (target : List (String × Json)) (member : String × Json) :
    named name (change target member) =
      if member.1 = name then settled (named name target) member.2 else named name target := by
  obtain ⟨other, value⟩ := member
  cases value with
  | null => exact named_removeName other name target
  | _ =>
      simp only [change, lookup?_eq_getLast?, named_putName]
      by_cases hsame : other = name
      · simp only [hsame, if_true, settled]
      · simp only [hsame, if_false]

theorem named_mergeMembers_of_not_mem {name : String} (target : List (String × Json))
    {changes : List (String × Json)} (habsent : ∀ value, (name, value) ∉ changes) :
    named name (mergeMembers target changes) = named name target := by
  rw [mergeMembers_eq_foldl]
  induction changes generalizing target with
  | nil => rfl
  | cons first rest ih =>
      have hother : first.1 ≠ name := by
        rintro rfl
        exact habsent first.2 List.mem_cons_self
      rw [List.foldl_cons, ih _ fun value hmember => habsent value (.tail _ hmember),
        named_change, if_neg hother]

theorem named_mergeMembers {name : String} {value : Json} (target : List (String × Json))
    {changes : List (String × Json)} (hdistinct : changes.Pairwise (fun a b => a.1 ≠ b.1))
    (hmember : (name, value) ∈ changes) :
    named name (mergeMembers target changes) = settled (named name target) value := by
  induction changes generalizing target with
  | nil => cases hmember
  | cons first rest ih =>
      obtain ⟨hapart, hdistinct⟩ := List.pairwise_cons.mp hdistinct
      rw [mergeMembers_eq_foldl, List.foldl_cons, ← mergeMembers_eq_foldl]
      rcases List.mem_cons.mp hmember with rfl | hmember
      · rw [named_mergeMembers_of_not_mem _ fun other hmember => hapart _ hmember rfl, named_change,
          if_pos rfl]
      · rw [ih _ hdistinct hmember, named_change, if_neg (hapart _ hmember)]

theorem sparse_eq (members : List (String × Json)) (name : String) (value : Decoder α) :
    sparse members name value =
      ((named name members).mapM (Decode.optional value)).map fun values =>
        values.getLast?.join := by
  rw [sparse, named, List.mapM_map]
  rfl

namespace Record

variable {names : List String} {record : Record}

def known (names : List String) (members : List (String × Json)) : List (String × Json) :=
  members.filter fun member => names.contains member.1

theorem named_known (names : List String) (name : String) (members : List (String × Json)) :
    named name (known names members) = if name ∈ names then named name members else [] := by
  induction members with
  | nil => simp [known, named]
  | cons member rest ih =>
      by_cases hlisted : member.1 ∈ names
      · have hkept : known names (member :: rest) = member :: known names rest := by
          simp [known, hlisted]
        rw [hkept, named_cons, named_cons, ih]
        by_cases hsame : member.1 = name
        · simp [hsame, hsame ▸ hlisted]
        · simp [hsame]
      · have hgone : known names (member :: rest) = known names rest := by
          simp [known, hlisted]
        rw [hgone, ih, named_cons]
        by_cases hsame : member.1 = name
        · simp [← hsame, hlisted]
        · simp [hsame]

theorem count_names (name : String) (members : List (String × Json)) :
    (members.map (·.1)).count name = (named name members).length := by
  induction members with
  | nil => rfl
  | cons member rest ih =>
      rw [List.map_cons, List.count_cons, ih, named_cons]
      by_cases hsame : member.1 = name <;> simp [hsame]

/-- A record is read from an object that repeats none of its fields. -/
theorem ofJson?_object :
    ofJson? names (.object members) = some record ↔
      (∀ name ∈ names, (named name members).length ≤ 1) ∧ record =
          ⟨false, known names members⟩ := by
  have hdistinct : (((known names members).map (·.1)).Nodup) ↔
      ∀ name ∈ names, (named name members).length ≤ 1 := by
    rw [List.nodup_iff_count]
    simp only [count_names, named_known]
    constructor
    · intro honce name hlisted
      simpa [hlisted] using honce name
    · intro honce name
      by_cases hlisted : name ∈ names
      · simpa [hlisted] using honce name hlisted
      · simp [hlisted]
  rw [← hdistinct]
  by_cases honce : ((known names members).map (·.1)).Nodup
  · have hpasses : repeats ((known names members).map (·.1)) = false := by simp [repeats, honce]
    change (if repeats ((known names members).map (·.1)) then none
      else some (Record.mk false (known names members))) = _ ↔ _
    simp only [hpasses, Bool.false_eq_true, if_false, Option.some.injEq, honce, true_and]
    exact eq_comm
  · have hfails : repeats ((known names members).map (·.1)) = true := by simp [repeats, honce]
    change (if repeats ((known names members).map (·.1)) then none
      else some (Record.mk false (known names members))) = _ ↔ _
    simp [hfails, honce]

theorem find?_known {name : String} (hlisted : name ∈ names) (members : List (String × Json)) :
    (Record.mk false (known names members)).find? name = (named name members).head? := by
  have hhead (members : List (String × Json)) : members.lookup name =
      (named name members).head? := by
    induction members with
    | nil => rfl
    | cons member rest ih =>
        rw [List.lookup_cons, ih, named_cons]
        by_cases hsame : member.1 = name
        · simp [hsame]
        · have hother : (name == member.1) = false := beq_false_of_ne (Ne.symm hsame)
          simp [hsame, hother]
  rw [find?, hhead, named_known, if_pos hlisted]

end Record

end BucketKeys.Json
