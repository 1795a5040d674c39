import BucketKeys.Proofs.Json.Members
import BucketKeys.Schema.Acceptance

/-!
What acceptance says of the values under each name of an object, and what the filling in of
fallbacks makes of them.
-/

namespace BucketKeys

namespace Json

/-- No object in the value has two members of one name. -/
def Unrepeated (json : Json) : Prop :=
  json.distinct = json

theorem length_distinctMembers_le (members : List (String × Json)) :
    (distinctMembers members).length ≤ members.length := by
  induction members with
  | nil => simp [distinctMembers]
  | cons first rest ih =>
      obtain ⟨name, value⟩ := first
      unfold distinctMembers
      split
      · exact Nat.le_succ_of_le ih
      · exact Nat.succ_le_succ ih

theorem named_eq_nil {name : String} {members : List (String × Json)} :
    named name members = [] ↔ ∀ member ∈ members, member.1 ≠ name := by
  simp [named]

theorem distinctMembers_cons {name : String} {value : Json} {rest : List (String × Json)}
    (hsame : distinctMembers ((name, value) :: rest) = (name, value) :: rest) :
    named name rest = [] ∧ value.Unrepeated ∧ distinctMembers rest = rest := by
  have hshorter := length_distinctMembers_le rest
  unfold distinctMembers at hsame
  split at hsame
  · -- A name that comes again leaves fewer members than there were.
    change distinctMembers rest = _ at hsame
    rw [hsame, List.length_cons] at hshorter
    omega
  · rename_i once
    obtain ⟨hhere, later⟩ := List.cons.inj hsame
    refine ⟨named_eq_nil.mpr fun member hfound hsame => once ?_, (Prod.mk.inj hhere).2, later⟩
    exact List.any_eq_true.mpr ⟨member, hfound, beq_iff_eq.mpr hsame⟩

theorem Unrepeated.members {members : List (String × Json)}
    (hunrepeated : (object members).Unrepeated) :
    (∀ name, (named name members).length ≤ 1) ∧
      ∀ name, ∀ value ∈ named name members, value.Unrepeated := by
  have hsame : distinctMembers members = members := by
    simpa [Unrepeated, distinct] using hunrepeated
  clear hunrepeated
  induction members with
  | nil => simp [named]
  | cons first rest ih =>
      obtain ⟨name, value⟩ := first
      obtain ⟨hsingle, hhere, hlater⟩ := distinctMembers_cons hsame
      obtain ⟨honce, heach⟩ := ih hlater
      refine ⟨fun other => ?_, fun other => ?_⟩
      · rw [named_cons]
        split
        · rename_i equal
          simp [← equal, hsingle]
        · exact honce other
      · rw [named_cons]
        split
        · rename_i equal
          simpa [← equal, hsingle] using hhere
        · exact heach other

theorem Unrepeated.items {items : List Json} (hunrepeated : (array items).Unrepeated) :
    ∀ item ∈ items, item.Unrepeated := by
  have hsame : distinctItems items = items := by
    simpa [Unrepeated, distinct] using hunrepeated
  clear hunrepeated
  induction items with
  | nil => simp
  | cons first rest ih =>
      obtain ⟨hhere, hlater⟩ := List.cons.inj hsame
      exact List.forall_mem_cons.mpr ⟨hhere, ih hlater⟩

end Json

namespace Schema

open Json (named named_cons)

variable {fields : List (String × Schema)} {members : List (String × Json)} {name : String}
  {schema : Schema}

theorem accepts_of_acceptsFields (hlisted : (name, schema) ∈ fields)
    (haccepted : acceptsFields fields members = true) :
    ∀ value ∈ named name members, schema.accepts value = true := by
  induction fields with
  | nil => cases hlisted
  | cons field rest ih =>
      obtain ⟨other, wanted⟩ := field
      obtain ⟨hhere, hlater⟩ := Bool.and_eq_true_iff.mp haccepted
      rcases List.mem_cons.mp hlisted with hsame | hlisted
      · cases hsame
        intro value member
        obtain ⟨⟨other, value⟩, hfound, rfl⟩ := List.mem_map.mp member
        obtain ⟨hwithin, hsame⟩ := List.mem_filter.mp hfound
        have hfits := List.all_eq_true.mp hhere _ hwithin
        rcases Bool.or_eq_true_iff.mp hfits with hapart | hfits
        · exact absurd (eq_of_beq hsame) (bne_iff_ne.mp hapart)
        · exact hfits
      · exact ih hlisted hlater

theorem accepts_record {notes : Notes} {required : List String}
    (haccepted : (record notes fields required).accepts (.object members) = true) :
    (∀ name ∈ required, named name members ≠ []) ∧ acceptsFields fields members = true := by
  simp only [accepts, Bool.and_eq_true] at haccepted
  refine ⟨fun name hlisted => ?_, haccepted.2⟩
  have hpresent := List.all_eq_true.mp haccepted.1 name hlisted
  simpa [named] using hpresent

/-- The values under the name of a field once it was filled in. -/
def settle (schema : Schema) (values : List Json) : List Json :=
  if values = [] then (schema.notes.fallback.map schema.fill).toList else values.map schema.fill

theorem length_settle_le {values : List Json} (hsingle : values.length ≤ 1) :
    (settle schema values).length ≤ 1 := by
  unfold settle
  split
  · cases schema.notes.fallback <;> simp
  · simpa using hsingle

def fillField (field : String × Schema) (members : List (String × Json)) : List (String × Json) :=
  (members.map fun member =>
      if member.1 == field.1 then (field.1, field.2.fill member.2) else member) ++
    if members.any (·.1 == field.1) then []
    else (field.2.notes.fallback.map fun value => (field.1, field.2.fill value)).toList

theorem fillFields_cons (field : String × Schema) (rest : List (String × Schema))
    (members : List (String × Json)) :
    fillFields (field :: rest) members = fillFields rest (fillField field members) := rfl

theorem named_fillField (field : String × Schema) (members : List (String × Json)) :
    named name (fillField field members) =
      if field.1 = name then settle field.2 (named name members) else named name members := by
  obtain ⟨other, schema⟩ := field
  have hpresent : named name (members.map fun member =>
      if member.1 == other then (other, schema.fill member.2) else member) =
      if other = name then (named name members).map schema.fill else named name members := by
    induction members with
    | nil => simp [named]
    | cons member rest ih =>
        rw [List.map_cons, named_cons, named_cons, ih]
        by_cases hhere : member.1 = other
        · by_cases hsame : other = name <;> simp [hhere, hsame]
        · by_cases hsame : other = name
          · simp [← hsame, hhere]
          · simp [hhere, hsame]
  have hmissing : members.any (·.1 == other) = true ↔ named other members ≠ [] := by
    simp [named]
  unfold fillField
  simp only [hmissing]
  by_cases hsame : other = name
  · subst hsame
    rw [named, List.filter_append, List.map_append, ← named, hpresent, if_pos rfl, if_pos rfl,
      settle]
    by_cases hnone : named other members = []
    · cases hfallback : schema.notes.fallback <;> simp [hnone]
    · simp [hnone]
  · rw [named, List.filter_append, List.map_append, ← named, hpresent, if_neg hsame, if_neg hsame]
    split
    · simp
    · cases schema.notes.fallback <;> simp [hsame]

theorem named_fillFields_of_not_mem (hunlisted : name ∉ fields.map (·.1))
    (members : List (String × Json)) :
    named name (fillFields fields members) = named name members := by
  induction fields generalizing members with
  | nil => rfl
  | cons field rest ih =>
      obtain ⟨hother, hunlisted⟩ := not_or.mp (mt List.mem_cons.mpr hunlisted)
      rw [fillFields_cons, ih hunlisted, named_fillField, if_neg (Ne.symm hother)]

theorem named_fillFields (hdistinct : (fields.map (·.1)).Nodup) (hlisted : (name, schema) ∈ fields)
    (members : List (String × Json)) :
    named name (fillFields fields members) = settle schema (named name members) := by
  induction fields generalizing members with
  | nil => cases hlisted
  | cons field rest ih =>
      obtain ⟨hapart, hdistinct⟩ := List.nodup_cons.mp hdistinct
      rw [fillFields_cons]
      rcases List.mem_cons.mp hlisted with rfl | hlisted
      · rw [named_fillFields_of_not_mem hapart, named_fillField, if_pos rfl]
      · have hother : field.1 ≠ name := by
          rintro rfl
          exact hapart (List.mem_map.mpr ⟨_, hlisted, rfl⟩)
        rw [ih hdistinct hlisted, named_fillField, if_neg hother]

theorem fill_ne_null {json : Json} (hpresent : json ≠ .null) : schema.fill json ≠ .null := by
  cases schema <;> cases json <;> simp_all [fill]

end Schema

end BucketKeys
