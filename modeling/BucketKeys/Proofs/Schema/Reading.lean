import BucketKeys.Proofs.Json.Lossless
import BucketKeys.Proofs.Schema.Filling

/-!
Schemas and readers of one type. A reader understands a schema if it reads whatever the schema
accepts, and reads the same once the fallbacks are filled in.
-/

namespace BucketKeys

def Agree (first second : Option α) : Prop :=
  ∃ value, first = some value ∧ second = some value

namespace Agree

theorem pure (value : α) : Agree (some value) (some value) := ⟨value, rfl, rfl⟩

theorem bind {first second : Option α} {f g : α → Option β} (hagree : Agree first second)
    (hfollows : ∀ value, Agree (f value) (g value)) : Agree (first.bind f) (second.bind g) := by
  obtain ⟨value, rfl, rfl⟩ := hagree
  exact hfollows value

theorem map {first second : Option α} (hagree : Agree first second) (f : α → β) :
    Agree (first.map f) (second.map f) := by
  obtain ⟨value, rfl, rfl⟩ := hagree
  exact .pure (f value)

end Agree

namespace Schema

open Json (Record named)

/-- The reader understands the schema, but for a null. -/
def Tells (schema : Schema) (read : Json.Decoder α) : Prop :=
  ∀ json : Json, json.Unrepeated → json ≠ .null → schema.accepts json = true →
    Agree (read json) (read (schema.fill json))

/-- Whatever the schema accepts is read, filled in or not, as the same value. -/
def Understood (schema : Schema) (read : Json.Decoder α) : Prop :=
  ∀ json : Json, json.Unrepeated → schema.accepts json = true →
    Agree (read json) (read (schema.fill json))

variable {schema : Schema} {read : Json.Decoder α}

theorem Tells.solid (htells : schema.Tells read) (hsolid : schema.notes.nullable = false) :
    schema.Understood read := by
  intro json hunrepeated haccepted
  refine htells json hunrepeated ?_ haccepted
  rintro rfl
  rw [accepts_null, hsolid] at haccepted
  cases haccepted

theorem Tells.optional (htells : schema.Tells read) :
    schema.Understood (Json.Decode.optional read) := by
  intro json hunrepeated haccepted
  by_cases null : json = .null
  · subst null
    have hkept : schema.fill .null = .null := by cases schema <;> rfl
    rw [hkept]
    exact .pure none
  · rw [Json.optional_of_ne_null null, Json.optional_of_ne_null (fill_ne_null null)]
    exact (htells json hunrepeated null haccepted).map some

theorem text_tells (notes : Notes) : (text notes).Tells Json.Decode.string := by
  intro json _ hpresent haccepted
  cases json with
  | string value => exact .pure value
  | null => exact absurd rfl hpresent
  | _ => cases haccepted

theorem choice_tells (notes : Notes) (values : List (String × α)) :
    (choice notes (values.map (·.1))).Tells (Json.Decode.enumeration values) := by
  intro json _ hpresent haccepted
  cases json with
  | string name =>
      obtain ⟨entry, hmember, hsame⟩ := List.mem_map.mp (List.contains_iff_mem.mp haccepted)
      have hfound : (values.lookup name).isSome := by
        rw [List.lookup_isSome_iff]
        exact ⟨entry, hmember, beq_iff_eq.mpr hsame.symm⟩
      obtain ⟨value, hfound⟩ := Option.isSome_iff_exists.mp hfound
      exact ⟨value, hfound, hfound⟩
  | null => exact absurd rfl hpresent
  | _ => cases haccepted

theorem list_tells (notes : Notes) (hunderstood : schema.Understood read) :
    (list notes schema).Tells (Json.Decode.list read) := by
  intro json hunrepeated hpresent haccepted
  cases json with
  | array items =>
      have hsingle := hunrepeated.items
      have heach : ∀ item ∈ items, schema.accepts item = true :=
        List.all_eq_true.mp (by simpa only [accepts] using haccepted)
      simp only [fill, Json.Decode.list]
      clear hpresent hunrepeated haccepted
      induction items with
      | nil => exact .pure []
      | cons first rest ih =>
          rw [List.forall_mem_cons] at hsingle heach
          rw [List.map_cons, List.mapM_cons, List.mapM_cons]
          refine (hunderstood first hsingle.1 heach.1).bind fun value => ?_
          exact (ih hsingle.2 heach.2).bind fun values => .pure (value :: values)
  | null => exact absurd rfl hpresent
  | _ => cases haccepted

structure Matched (fields : List (String × Schema)) (required : List String)
    (given filled : Record) : Prop where
  named : given.positional = false ∧ filled.positional = false
  present : ∀ {name schema}, fields.lookup name = some schema → ∀ json,
    given.find? name = some json → json.Unrepeated ∧ schema.accepts json = true ∧
      filled.find? name = some (schema.fill json)
  missing : ∀ {name schema}, fields.lookup name = some schema → given.find? name = none →
    name ∉ required ∧ filled.find? name = schema.notes.fallback.map schema.fill

namespace Matched

variable {fields : List (String × Schema)} {needed : List String} {given filled : Record}
  {name : String}

theorem required (hmatched : Matched fields needed given filled)
    (hlisted : fields.lookup name = some schema) (hwanted : name ∈ needed)
    (hunderstood : schema.Understood read) :
    Agree (given.required name read) (filled.required name read) := by
  unfold Record.required
  cases hfound : given.find? name with
  | none => exact absurd hwanted (hmatched.missing hlisted hfound).1
  | some json =>
      obtain ⟨hunrepeated, haccepted, hsame⟩ := hmatched.present hlisted json hfound
      rw [hsame]
      exact hunderstood json hunrepeated haccepted

theorem defaulted (hmatched : Matched fields needed given filled)
    (hlisted : fields.lookup name = some schema) (hunderstood : schema.Understood read) (value : α)
    (hfallback : ∀ json ∈ schema.notes.fallback, read (schema.fill json) = some value) :
    Agree (given.defaulted name read value) (filled.defaulted name read value) := by
  unfold Record.defaulted
  cases hfound : given.find? name with
  | none =>
      rw [(hmatched.missing hlisted hfound).2]
      cases htold : schema.notes.fallback with
      | none => exact .pure value
      | some json => exact ⟨value, rfl, hfallback json htold⟩
  | some json =>
      obtain ⟨hunrepeated, haccepted, hsame⟩ := hmatched.present hlisted json hfound
      rw [hsame]
      exact hunderstood json hunrepeated haccepted

theorem nullable (hmatched : Matched fields needed given filled)
    (hlisted : fields.lookup name = some schema) (htells : schema.Tells read)
    (hbare : schema.notes.fallback = none) :
    Agree (given.nullable name read) (filled.nullable name read) := by
  unfold Record.nullable
  rw [hmatched.named.1, hmatched.named.2]
  exact hmatched.defaulted hlisted htells.optional none (by simp [hbare])

variable {notes : Notes}

theorem text (hmatched : Matched fields needed given filled)
    (hlisted : fields.lookup name = some (.text notes)) (hwanted : name ∈ needed)
    (hsolid : notes.nullable = false) :
    Agree (given.required name Json.Decode.string) (filled.required name Json.Decode.string) :=
  hmatched.required hlisted hwanted ((text_tells notes).solid hsolid)

theorem optionalText (hmatched : Matched fields needed given filled)
    (hlisted : fields.lookup name = some (.text notes)) (hbare : notes.fallback = none) :
    Agree (given.defaulted name (Json.Decode.optional Json.Decode.string) none)
      (filled.defaulted name (Json.Decode.optional Json.Decode.string) none) :=
  hmatched.defaulted hlisted (text_tells notes).optional none (by simp [Schema.notes, hbare])

end Matched

theorem mem_of_lookup {fields : List (String × Schema)} {name : String}
    (hlisted : fields.lookup name = some schema) : (name, schema) ∈ fields := by
  obtain ⟨before, after, rfl, -⟩ := List.lookup_eq_some_iff.mp hlisted
  exact List.mem_append_right before List.mem_cons_self

theorem matched_of_accepts {notes : Notes} {fields : List (String × Schema)}
    {required names : List String} {json : Json} (hdistinct : (fields.map (·.1)).Nodup)
    (hknown : ∀ name ∈ fields.map (·.1), name ∈ names) (hunrepeated : json.Unrepeated)
    (hpresent : json ≠ .null) (haccepted : (record notes fields required).accepts json = true) :
    ∃ given filled, Record.ofJson? names json = some given ∧
      Record.ofJson? names ((record notes fields required).fill json) = some filled ∧
      Matched fields required given filled ∧
      ∀ name ∈ names, name ∉ fields.map (·.1) → filled.find? name = given.find? name := by
  cases json with
  | object members =>
      obtain ⟨needed, hfits⟩ := accepts_record haccepted
      obtain ⟨honce, heach⟩ := hunrepeated.members
      have hsingle : ∀ name ∈ names, (named name (fillFields fields members)).length ≤ 1 := by
        intro name _
        by_cases hlisted : name ∈ fields.map (·.1)
        · obtain ⟨field, hmember, rfl⟩ := List.mem_map.mp hlisted
          rw [named_fillFields hdistinct hmember]
          exact length_settle_le (honce field.1)
        · rw [named_fillFields_of_not_mem hlisted]
          exact honce name
      refine ⟨⟨false, Record.known names members⟩,
        ⟨false, Record.known names (fillFields fields members)⟩,
        Record.ofJson?_object.mpr ⟨fun name _ => honce name, rfl⟩,
        Record.ofJson?_object.mpr ⟨hsingle, rfl⟩, ⟨⟨rfl, rfl⟩, ?_, ?_⟩, ?_⟩
      · intro name schema hfound json hhere
        have hlisted := mem_of_lookup hfound
        have hmember := hknown name (List.mem_map.mpr ⟨_, hlisted, rfl⟩)
        rw [Record.find?_known hmember] at hhere ⊢
        have hinside := List.mem_of_mem_head? hhere
        refine ⟨heach name json hinside, accepts_of_acceptsFields hlisted hfits json hinside, ?_⟩
        rw [named_fillFields hdistinct hlisted, settle, if_neg (List.ne_nil_of_mem hinside),
          List.head?_map, hhere]
        rfl
      · intro name schema hfound hnone
        have hlisted := mem_of_lookup hfound
        have hmember := hknown name (List.mem_map.mpr ⟨_, hlisted, rfl⟩)
        rw [Record.find?_known hmember] at hnone ⊢
        have habsent := List.head?_eq_none_iff.mp hnone
        refine ⟨fun required => needed name required habsent, ?_⟩
        rw [named_fillFields hdistinct hlisted, settle, if_pos habsent]
        cases schema.notes.fallback <;> rfl
      · intro name hmember hunlisted
        rw [Record.find?_known hmember, Record.find?_known hmember,
          named_fillFields_of_not_mem hunlisted]
  | null => exact absurd rfl hpresent
  | _ => cases haccepted

theorem record_tells {notes : Notes} {fields : List (String × Schema)}
    {required names : List String} {read : Record → Option α}
    (hdistinct : (fields.map (·.1)).Nodup) (hknown : ∀ name ∈ fields.map (·.1), name ∈ names)
    (hfieldwise : ∀ given filled, Matched fields required given filled →
      Agree (read given) (read filled)) :
    (record notes fields required).Tells fun json => (Record.ofJson? names json).bind read := by
  intro json hunrepeated hpresent haccepted
  obtain ⟨given, filled, hhere, hthere, hmatched, -⟩ :=
    matched_of_accepts hdistinct hknown hunrepeated hpresent haccepted
  simp only [hhere, hthere]
  exact hfieldwise given filled hmatched

end Schema

end BucketKeys
