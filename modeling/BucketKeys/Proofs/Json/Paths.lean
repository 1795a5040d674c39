import BucketKeys.Proofs.Json.Members

/-!
What stands at a path of names in a document, and which paths a merge patch leaves alone.
-/

namespace BucketKeys.Json

def at? : List String → Json → Option Json
  | [], json => some json
  | name :: rest, json => (json.get? name).bind (at? rest)

/-- The patch says what is to stand at the path, or above or below it. -/
def covers : List String → Json → Bool
  | [], _ => true
  | name :: rest, .object changes => changes.any fun change => change.1 ==
      name && covers rest change.2
  | _ :: _, _ => true

theorem get?_eq (name : String) (json : Json) : json.get? name = lookup? name json.members := by
  cases json <;> rfl

theorem at?_of_members_eq_nil {json : Json} (hempty : json.members = []) {path : List String}
    (hbelow : path ≠ []) : at? path json = none := by
  cases path with
  | nil => exact absurd rfl hbelow
  | cons name rest => rw [at?, get?_eq, hempty]; rfl

theorem lookup?_change (name : String) (target : List (String × Json)) (member : String × Json) :
    lookup? name (change target member) =
      if member.1 = name then (settled (named name target) member.2).getLast?
      else lookup? name target := by
  rw [lookup?_eq_getLast?, lookup?_eq_getLast?, named_change]
  split <;> rfl

theorem object_of_not_covers {path : List String} {patch : Json}
    (houtside : covers path patch = false) : path ≠ [] ∧ ∃ changes, patch = .object changes := by
  cases path with
  | nil => cases houtside
  | cons name rest =>
      refine ⟨List.cons_ne_nil _ _, ?_⟩
      cases patch with
      | object changes => exact ⟨changes, rfl⟩
      | _ => cases houtside

/-- A merge leaves everything alone that the patch does not cover. -/
theorem at?_mergePatch {path : List String} {patch : Json} (target : Json)
    (houtside : covers path patch = false) : at? path (target.mergePatch patch) =
        at? path target := by
  induction path generalizing patch target with
  | nil => cases houtside
  | cons name rest ih =>
      obtain ⟨-, changes, rfl⟩ := object_of_not_covers houtside
      have huntouched : ∀ change ∈ changes, change.1 = name → covers rest change.2 = false := by
        simpa [covers] using houtside
      clear houtside
      change (lookup? name (mergeMembers target.members changes)).bind (at? rest) = _
      rw [at?, get?_eq, mergeMembers_eq_foldl]
      generalize target.members = members
      induction changes generalizing members with
      | nil => rfl
      | cons first later hfollows =>
          obtain ⟨hhere, huntouched⟩ := List.forall_mem_cons.mp huntouched
          rw [List.foldl_cons, hfollows huntouched, lookup?_change]
          split
          · rename_i same
            obtain ⟨hbelow, inner, hobject⟩ := object_of_not_covers (hhere same)
            have hkept := ih ((named name members).getLast?.getD .null) (hhere same)
            rw [lookup?_eq_getLast?, hobject]
            rw [hobject] at hkept
            apply hkept.trans
            cases (named name members).getLast? with
            | none => exact at?_of_members_eq_nil rfl hbelow
            | some old => rfl
          · rfl

/-- A document that says nothing but what is to stand at a path. -/
def nest : List String → Json → Json
  | [], value => value
  | name :: rest, value => .object [(name, nest rest value)]

def Apart (path part : List String) : Prop :=
  ¬ path <+: part ∧ ¬ part <+: path

theorem covers_nest {path part : List String} (hapart : Apart path part) (value : Json) :
    covers path (nest part value) = false := by
  induction part generalizing path with
  | nil => exact absurd List.nil_prefix hapart.2
  | cons name rest ih =>
      cases path with
      | nil => exact absurd List.nil_prefix hapart.1
      | cons first later =>
          by_cases hsame : name = first
          · subst hsame
            have hdeeper : Apart later rest := by
              simpa [Apart, List.cons_prefix_cons] using hapart
            simp [nest, covers, ih hdeeper]
          · simp [nest, covers, hsame]

end BucketKeys.Json
