import BucketKeys.Proofs.Json.Dictionaries

/-!
Writers and readers of one type that lose nothing, and how they are put together.
-/

namespace BucketKeys

theorem Dictionary.ofList_entries (map : Dictionary α) : ofList map.entries = map := by
  apply ext_get?
  intro name
  rw [get?_ofList]
  have hsingle : (map.entries.filter (·.1 == name)).Pairwise (fun _ _ => False) := by
    rw [List.pairwise_filter]
    apply map.ascending.imp
    intro first second hbelow hhere hthere
    rw [eq_of_beq hhere, eq_of_beq hthere] at hbelow
    exact String.lt_irrefl name hbelow
  rw [get?, ← List.head?_filter]
  generalize map.entries.filter (·.1 == name) = entries at hsingle ⊢
  cases entries with
  | nil => rfl
  | cons first rest =>
      cases rest with
      | nil => rfl
      | cons second later =>
          have hapart := List.rel_of_pairwise_cons hsingle List.mem_cons_self
          exact hapart.elim

namespace Json

theorem optional_of_ne_null {read : Decoder α} {json : Json} (hpresent : json ≠ .null) :
    Decode.optional read json = (read json).map some := by
  cases json with
  | null => exact absurd rfl hpresent
  | _ => rfl

/-- What is written of a value is read as that value. -/
def Lossless (write : α → Json) (read : Decoder α) : Prop :=
  ∀ value, read (write value) = some value

namespace Lossless

variable {write : α → Json} {read : Decoder α}

theorem string : Lossless .string Decode.string := fun _ => rfl

theorem list (hlossless : Lossless write read) :
    Lossless (fun values => .array (values.map write)) (Decode.list read) := by
  intro values
  change (values.map write).mapM read = some values
  induction values with
  | nil => rfl
  | cons first rest ih =>
      rw [List.map_cons, List.mapM_cons, hlossless first, ih]
      rfl

theorem optional (hlossless : Lossless write read) (hpresent : ∀ value, write value ≠ .null) :
    Lossless (ofOption write) (Decode.optional read) := by
  intro value
  cases value with
  | none => rfl
  | some value =>
      change Decode.optional read (write value) = some (some value)
      rw [optional_of_ne_null (hpresent value), hlossless value]
      rfl

theorem dictionary (hlossless : Lossless write read) :
    Lossless (ofDictionary write) (Decode.dictionary read) := by
  intro map
  have hmembers : (map.entries.map fun entry => (entry.1, write entry.2)).mapM
      (fun member => (read member.2).map ((member.1, ·))) = some map.entries := by
    induction map.entries with
    | nil => rfl
    | cons first rest ih =>
        rw [List.map_cons, List.mapM_cons, ih, hlossless first.2]
        rfl
  rw [ofDictionary, Decode.dictionary, hmembers, Option.map_some, Dictionary.ofList_entries]

theorem enumeration {values : List (String × α)} {name : α → String}
    (hnamed : ∀ value, values.lookup (name value) = some value) :
    Lossless (fun value => .string (name value)) (Decode.enumeration values) :=
  hnamed

theorem reread (hlossless : Lossless write read) (json : Json) :
    ((read json).bind fun value => read (write value)) = read json := by
  cases read json with
  | none => rfl
  | some value => exact hlossless value

end Lossless

namespace Record

@[simp] theorem ofJson?_fields {names : List String} {fields : List (String × Json)}
    (hdistinct : (fields.map (·.1)).Nodup) (hknown : ∀ field ∈ fields, field.1 ∈ names) :
    ofJson? names (.object fields) = some ⟨false, fields⟩ := by
  have hall : fields.filter (fun field => names.contains field.1) = fields := by
    rw [List.filter_eq_self]
    intro field hmember
    exact List.contains_iff_mem.mpr (hknown field hmember)
  have honce : repeats (fields.map (·.1)) = false := by
    simpa [repeats] using hdistinct
  rw [ofJson?, hall, honce]
  rfl

@[simp] theorem find?_first (name : String) (json : Json) (rest : List (String × Json)) :
    (Record.mk false ((name, json) :: rest)).find? name = some json := by
  simp [find?]

@[simp] theorem find?_later {name other : String} (hapart : name ≠ other) (json : Json)
    (rest : List (String × Json)) :
    (Record.mk false ((other, json) :: rest)).find? name = (Record.mk false rest).find? name := by
  have hpassed : (name == other) = false := beq_false_of_ne hapart
  simp [find?, List.lookup_cons, hpassed]

end Record

end Json

end BucketKeys
