/-!
Finite maps from names, as association lists in ascending order of the names. The order makes
equal maps equal values.
-/

namespace BucketKeys

structure Dictionary (α : Type) where
  entries : List (String × α)
  ascending : entries.Pairwise (fun a b => a.1 < b.1)

namespace Dictionary

@[ext] theorem ext {m n : Dictionary α} (h : m.entries = n.entries) : m = n := by
  cases m; cases n; cases h; rfl

instance [DecidableEq α] : DecidableEq (Dictionary α) := fun m n =>
  decidable_of_iff (m.entries = n.entries) ⟨ext, fun h => h ▸ rfl⟩

instance [Repr α] : Repr (Dictionary α) := ⟨fun m precedence => reprPrec m.entries precedence⟩

def empty : Dictionary α := ⟨[], .nil⟩

instance : Inhabited (Dictionary α) := ⟨empty⟩

instance : EmptyCollection (Dictionary α) := ⟨empty⟩

def insertEntry (name : String) (value : α) : List (String × α) → List (String × α)
  | [] => [(name, value)]
  | entry :: rest =>
    if name < entry.1 then (name, value) :: entry :: rest
    else if name = entry.1 then (name, value) :: rest
    else entry :: insertEntry name value rest

theorem mem_insertEntry {name : String} {value : α} {entries : List (String × α)}
    {entry : String × α} (h : entry ∈ insertEntry name value entries) :
    entry = (name, value) ∨ entry ∈ entries := by
  induction entries with
  | nil => simpa [insertEntry] using h
  | cons first rest ih =>
    unfold insertEntry at h
    split at h
    · simpa using h
    · split at h
      · rcases List.mem_cons.mp h with h | h
        · exact .inl h
        · exact .inr (List.mem_cons_of_mem _ h)
      · rcases List.mem_cons.mp h with h | h
        · exact .inr (h ▸ List.mem_cons_self)
        · exact (ih h).imp_right (List.mem_cons_of_mem _)

theorem ascending_insertEntry {name : String} {value : α} {entries : List (String × α)}
    (h : entries.Pairwise (fun a b => a.1 < b.1)) :
    (insertEntry name value entries).Pairwise (fun a b => a.1 < b.1) := by
  induction entries with
  | nil => simp [insertEntry]
  | cons first rest ih =>
    obtain ⟨hfirst, hrest⟩ := List.pairwise_cons.mp h
    unfold insertEntry
    split
    · rename_i hlt
      refine List.pairwise_cons.mpr ⟨fun entry hentry => ?_, h⟩
      rcases List.mem_cons.mp hentry with rfl | hentry
      · exact hlt
      · exact String.lt_trans hlt (hfirst entry hentry)
    · split
      · rename_i heq
        exact List.pairwise_cons.mpr ⟨fun entry hentry => heq ▸ hfirst entry hentry, hrest⟩
      · rename_i hlt hne
        refine List.pairwise_cons.mpr ⟨fun entry hentry => ?_, ih hrest⟩
        rcases mem_insertEntry hentry with rfl | hentry
        · rcases Std.lt_trichotomy first.1 name with h | h | h
          · exact h
          · exact absurd h.symm hne
          · exact absurd h hlt
        · exact hfirst entry hentry

def insert (name : String) (value : α) (map : Dictionary α) : Dictionary α :=
  ⟨insertEntry name value map.entries, ascending_insertEntry map.ascending⟩

def erase (name : String) (map : Dictionary α) : Dictionary α :=
  ⟨map.entries.filter (·.1 != name), map.ascending.filter _⟩

def get? (name : String) (map : Dictionary α) : Option α :=
  (map.entries.find? (·.1 == name)).map (·.2)

def contains (name : String) (map : Dictionary α) : Bool :=
  (map.get? name).isSome

def isEmpty (map : Dictionary α) : Bool :=
  map.entries.isEmpty

def names (map : Dictionary α) : List String :=
  map.entries.map (·.1)

/-- Of entries with one name the last counts. -/
def ofList (entries : List (String × α)) : Dictionary α :=
  entries.foldl (fun map entry => map.insert entry.1 entry.2) empty

def singleton (name : String) (value : α) : Dictionary α :=
  ⟨[(name, value)], List.pairwise_singleton _ _⟩

theorem find?_insertEntry (name other : String) (value : α) (entries : List (String × α)) :
    (insertEntry name value entries).find? (·.1 == other) =
      if name = other then some (name, value) else entries.find? (·.1 == other) := by
  induction entries with
  | nil => by_cases h : name = other <;> simp [insertEntry, h]
  | cons first rest ih =>
    unfold insertEntry
    split
    · by_cases h : name = other <;> simp [h]
    · split
      · rename_i heq
        subst heq
        by_cases h : first.1 = other <;> simp [h]
      · rename_i hne
        by_cases h : first.1 = other
        · subst h
          simp [hne]
        · simp [h, ih]

@[simp] theorem get?_empty (name : String) : (empty : Dictionary α).get? name = none := rfl

theorem get?_insert (name other : String) (value : α) (map : Dictionary α) :
    (map.insert name value).get? other = if name = other then some value else map.get? other := by
  unfold get? insert
  simp only [find?_insertEntry]
  split <;> rfl

@[simp] theorem get?_insert_self (name : String) (value : α) (map : Dictionary α) :
    (map.insert name value).get? name = some value := by
  simp [get?_insert]

theorem find?_filter_ne (name other : String) (entries : List (String × α)) :
    (entries.filter (·.1 != name)).find? (·.1 == other) =
      if name = other then none else entries.find? (·.1 == other) := by
  induction entries with
  | nil => simp
  | cons first rest ih =>
    by_cases hfirst : first.1 = name
    · subst hfirst
      by_cases h : first.1 = other
      · simp [h]
      · simpa [h] using ih
    · by_cases h : first.1 = other
      · subst h
        simp [hfirst, Ne.symm hfirst]
      · simpa [hfirst, h] using ih

theorem get?_erase (name other : String) (map : Dictionary α) :
    (map.erase name).get? other = if name = other then none else map.get? other := by
  unfold get? erase
  rw [find?_filter_ne]
  split <;> rfl

theorem find?_eq_none_of_forall_lt {name : String} {entries : List (String × α)}
    (h : ∀ entry ∈ entries, name < entry.1) : entries.find? (·.1 == name) = none := by
  refine List.find?_eq_none.mpr fun entry hentry => ?_
  have hlt := h entry hentry
  intro heq
  rw [eq_of_beq heq] at hlt
  exact String.lt_irrefl name hlt

theorem entries_eq_of_lookups {xs ys : List (String × α)}
    (hxs : xs.Pairwise (fun a b => a.1 < b.1)) (hys : ys.Pairwise (fun a b => a.1 < b.1))
    (h : ∀ name, (xs.find? (·.1 == name)).map (·.2) = (ys.find? (·.1 == name)).map (·.2)) :
    xs = ys := by
  induction xs generalizing ys with
  | nil =>
    cases ys with
    | nil => rfl
    | cons y ys => simpa using h y.1
  | cons x xs ih =>
    cases ys with
    | nil => simpa using h x.1
    | cons y ys =>
      obtain ⟨hx, hxs⟩ := List.pairwise_cons.mp hxs
      obtain ⟨hy, hys⟩ := List.pairwise_cons.mp hys
      rcases Std.lt_trichotomy x.1 y.1 with hlt | heq | hlt
      · have hall : ∀ entry ∈ y :: ys, x.1 < entry.1 := by
          intro entry hentry
          rcases List.mem_cons.mp hentry with rfl | hentry
          · exact hlt
          · exact String.lt_trans hlt (hy entry hentry)
        have hnone := find?_eq_none_of_forall_lt hall
        have hname := h x.1
        rw [hnone] at hname
        simp at hname
      · have hvalue : x.2 = y.2 := by simpa [heq] using h x.1
        have htails : xs = ys := ih hxs hys fun name => by
          by_cases hname : x.1 = name
          · subst hname
            rw [find?_eq_none_of_forall_lt hx, heq, find?_eq_none_of_forall_lt hy]
          · simpa [hname, heq ▸ hname] using h name
        rw [htails, Prod.ext heq hvalue]
      · have hall : ∀ entry ∈ x :: xs, y.1 < entry.1 := by
          intro entry hentry
          rcases List.mem_cons.mp hentry with rfl | hentry
          · exact hlt
          · exact String.lt_trans hlt (hx entry hentry)
        have hnone := find?_eq_none_of_forall_lt hall
        have hname := h y.1
        rw [hnone] at hname
        simp at hname

theorem ext_get? {m n : Dictionary α} (h : ∀ name, m.get? name = n.get? name) : m = n :=
  ext (entries_eq_of_lookups m.ascending n.ascending h)

end Dictionary

end BucketKeys
