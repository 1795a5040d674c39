import BucketKeys.Proofs.Course.Store
import BucketKeys.Proofs.Json.Members

/-!
Dictionaries in documents: reading one, and patching one by a merge.
-/

namespace BucketKeys

theorem Dictionary.get?_ofList (entries : List (String × α)) (name : String) :
    (Dictionary.ofList entries).get? name =
      ((entries.filter (·.1 == name)).map (·.2)).getLast? := by
  have hfrom_start (start : Dictionary α) :
      (entries.foldl (fun map entry => map.insert entry.1 entry.2) start).get? name =
        ((entries.filter (·.1 == name)).map (·.2)).getLast?.or (start.get? name) := by
    induction entries generalizing start with
    | nil => rfl
    | cons first rest ih =>
        rw [List.foldl_cons, ih, get?_insert]
        by_cases hsame : first.1 = name
        · simp only [hsame, if_true, List.filter_cons, beq_self_eq_true, List.map_cons,
            List.getLast?_cons]
          cases ((rest.filter (·.1 == name)).map (·.2)).getLast? <;> rfl
        · simp [hsame]
  rw [ofList, hfrom_start, get?_empty, Option.or_none]

theorem Dictionary.mem_entries_iff {map : Dictionary α} {name : String} {value : α} :
    (name, value) ∈ map.entries ↔ map.get? name = some value := by
  obtain ⟨entries, hascending⟩ := map
  rw [show Dictionary.get? name ⟨entries, hascending⟩ =
    (entries.find? (·.1 == name)).map (·.2) from rfl]
  induction entries with
  | nil => simp
  | cons first rest ih =>
      obtain ⟨habove, hascending⟩ := List.pairwise_cons.mp hascending
      rw [List.mem_cons, ih hascending]
      by_cases hsame : first.1 = name
      · have none : rest.find? (·.1 == name) = none :=
          find?_eq_none_of_forall_lt fun entry hmember => hsame ▸ habove entry hmember
        simp [none, hsame, Prod.ext_iff, eq_comm]
      · simp [hsame, Prod.ext_iff, Ne.symm hsame]

namespace Json

variable {members : List (String × Json)} {value : Decoder α}

theorem mapM_isSome {f : α → Option β} {items : List α} :
    (items.mapM f).isSome ↔ ∀ item ∈ items, (f item).isSome := by
  induction items with
  | nil => simp
  | cons first rest ih =>
      rw [List.forall_mem_cons, ← ih, List.mapM_cons]
      cases f first <;> cases rest.mapM f <;> simp

theorem mem_named {name : String} {json : Json} :
    json ∈ named name members ↔ (name, json) ∈ members := by
  simp [named]

theorem mapM_named {entries : List (String × α)}
    (hread : (members.mapM fun member => (value member.2).map ((member.1, ·))) = some entries)
    (name : String) :
    (named name members).mapM value = some ((entries.filter (·.1 == name)).map (·.2)) := by
  induction members generalizing entries with
  | nil =>
      cases hread
      rfl
  | cons first rest ih =>
      simp only [List.mapM_cons, Option.bind_eq_bind, Option.bind_eq_some_iff,
        Option.map_eq_some_iff, Option.pure_def, Option.some.injEq] at hread
      obtain ⟨_, ⟨present, hhere, rfl⟩, later, hfollows, rfl⟩ := hread
      rw [named_cons]
      by_cases hsame : first.1 = name
      · simp [hsame, hhere, ih hfollows]
      · simp [hsame, ih hfollows]

theorem dictionary_object {map : Dictionary α} :
    Decode.dictionary value (.object members) = some map ↔
      ∀ name, ((named name members).mapM value).map List.getLast? = some (map.get? name) := by
  have hlooked {entries : List (String × α)}
      (hread : (members.mapM fun member => (value member.2).map ((member.1, ·))) = some entries)
      (name : String) : ((named name members).mapM value).map List.getLast? =
        some ((Dictionary.ofList entries).get? name) := by
    rw [mapM_named hread, Dictionary.get?_ofList]
    rfl
  rw [Decode.dictionary, Option.map_eq_some_iff]
  constructor
  · rintro ⟨entries, hread, rfl⟩ name
    exact hlooked hread name
  · intro hnames
    have hall : (members.mapM fun member => (value member.2).map ((member.1, ·))).isSome := by
      refine mapM_isSome.mpr fun member hlisted => ?_
      obtain ⟨values, hread, -⟩ := Option.map_eq_some_iff.mp (hnames member.1)
      have heach := mapM_isSome.mp (Option.isSome_of_eq_some hread) member.2 (mem_named.mpr hlisted)
      simpa using heach
    obtain ⟨entries, hread⟩ := Option.isSome_iff_exists.mp hall
    refine ⟨entries, hread, Dictionary.ext_get? fun name => ?_⟩
    exact Option.some.inj ((hlooked hread name).symm.trans (hnames name))

theorem pairwise_ne_entries (f : α → Json) (map : Dictionary α) :
    (map.entries.map fun entry => (entry.1, f entry.2)).Pairwise (fun a b => a.1 ≠ b.1) := by
  rw [List.pairwise_map]
  refine map.ascending.imp fun {first second} hbelow hsame => ?_
  exact String.lt_irrefl _ (hsame ▸ hbelow)

theorem named_mergeMembers_ofDictionary (f : α → Json) (changes : Dictionary α) (name : String)
    (target : List (String × Json)) :
    named name (mergeMembers target (changes.entries.map fun entry => (entry.1, f entry.2))) =
      (changes.get? name).elim (named name target) fun value =>
        settled (named name target) (f value) := by
  cases hfound : changes.get? name with
  | none =>
      refine named_mergeMembers_of_not_mem target fun value hlisted => ?_
      obtain ⟨⟨_, _⟩, hmember, hsame⟩ := List.mem_map.mp hlisted
      cases hsame
      exact absurd (Dictionary.mem_entries_iff.mp hmember) (by simp [hfound])
  | some value =>
      apply named_mergeMembers target (pairwise_ne_entries f changes)
      exact List.mem_map_of_mem (Dictionary.mem_entries_iff.mpr hfound)

/-- Texts that are merged into a dictionary are set in it, and nulls remove theirs. -/
theorem dictionary_mergePatch {old : Json} {texts : Option (Dictionary String)}
    (hread : Decode.optional (Decode.dictionary Decode.string) old = some texts)
    (changes : Dictionary (Option String)) :
    Decode.dictionary Decode.string (old.mergePatch (ofDictionary (ofOption .string) changes)) =
      some ((texts.getD {}).patch changes) := by
  have hbefore (name : String) :
      ((named name old.members).mapM Decode.string).map List.getLast? =
        some ((texts.getD {}).get? name) := by
    cases old with
    | null =>
        cases hread
        rfl
    | object members =>
        obtain ⟨map, hpresent, rfl⟩ := Option.map_eq_some_iff.mp hread
        exact dictionary_object.mp hpresent name
    | _ => cases hread
  refine dictionary_object.mpr fun name => ?_
  rw [named_mergeMembers_ofDictionary, Dictionary.get?_patch]
  cases changes.get? name with
  | none => exact hbefore name
  | some change => cases change <;> rfl

end Json

end BucketKeys
