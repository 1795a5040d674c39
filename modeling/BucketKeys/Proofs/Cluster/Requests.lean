import Mathlib.Data.List.TakeWhile
import BucketKeys.Cluster.Writes

/-!
Requests about objects with proper names reach the object of that name.
-/

namespace BucketKeys

def isNameChar (c : Char) : Bool :=
  c.isAlphanum || c == '-' || c == '.'

def ProperName (name : String) : Prop :=
  name ≠ "" ∧ name.utf8ByteSize ≤ 253 ∧ name.toList.all isNameChar

instance (name : String) : Decidable (ProperName name) :=
  inferInstanceAs (Decidable (_ ∧ _ ∧ _))

namespace Url.Target

def isPathChar (c : Char) : Bool :=
  inPath c && !endsPath c

def isQueryChar (c : Char) : Bool :=
  inQuery c && c != '#'

theorem isPathChar_of_isNameChar {c : Char} (hproper : isNameChar c) : isPathChar c := by
  have hranges : (65 ≤ c.toNat ∧ c.toNat ≤ 90 ∨ 97 ≤ c.toNat ∧ c.toNat ≤ 122 ∨
      48 ≤ c.toNat ∧ c.toNat ≤ 57) ∨ c = '-' ∨ c = '.' := by
    change ((decide ('A'.val ≤ c.val ∧ c.val ≤ 'Z'.val) ||
      decide ('a'.val ≤ c.val) && decide (c.val ≤ 'z'.val)) ||
        c.isDigit || c == '-' || c == '.') = true at hproper
    simpa [Char.isDigit, UInt32.le_iff_toNat_le, or_assoc] using hproper
  rcases hranges with hrange | rfl | rfl
  · have hapart (mark : Char) (houtside : ¬ (65 ≤ mark.toNat ∧ mark.toNat ≤ 90 ∨
        97 ≤ mark.toNat ∧ mark.toNat ≤ 122 ∨ 48 ≤ mark.toNat ∧ mark.toNat ≤ 57)) : c ≠ mark :=
      fun hsame => houtside (hsame ▸ hrange)
    have hprinted : 32 < c.toNat ∧ c.toNat ≠ 127 ∧ c.toNat ≠ 96 := by omega
    simp [isPathChar, inPath, isAllowed, endsPath, hprinted, hapart '<' (by decide),
      hapart '>' (by decide), hapart '?' (by decide),
      hapart '#' (by decide)]
  · decide
  · decide

/-- A target is cut at the mark between its path and its query. -/
theorem read_append {path query : String} (hplain : path.toList.all isPathChar)
    (hasks : query.toList.all isQueryChar)
    (hfits : (path ++ "?" ++ query).utf8ByteSize ≤ sizeLimit) :
    read (path ++ "?" ++ query) = .ok ⟨path, some query⟩ := by
  have hchars : (path ++ "?" ++ query).toList = path.toList ++ '?' :: query.toList := by
    simp [String.toList_append]
  have hinside : ∀ c ∈ path.toList, !endsPath c := by
    intro c hmember
    exact (Bool.and_eq_true_iff.mp (List.all_eq_true.mp hplain c hmember)).2
  have hbefore : (path.toList ++ '?' :: query.toList).takeWhile (!endsPath ·) = path.toList := by
    rw [List.takeWhile_append_of_pos hinside]
    simp [endsPath]
  have hbehind : (path.toList ++ '?' :: query.toList).dropWhile (!endsPath ·) =
      '?' :: query.toList := by
    rw [List.dropWhile_append_of_pos hinside]
    simp [endsPath]
  have hpath_fits : path.toList.all inPath :=
    List.all_eq_true.mpr fun c hmember =>
      (Bool.and_eq_true_iff.mp (List.all_eq_true.mp hplain c hmember)).1
  have hquery_fits : query.toList.all inQuery :=
    List.all_eq_true.mpr fun c hmember =>
      (Bool.and_eq_true_iff.mp (List.all_eq_true.mp hasks c hmember)).1
  have hwhole : query.toList.takeWhile (· != '#') = query.toList :=
    List.takeWhile_eq_self_iff.mpr fun c hmember =>
      (Bool.and_eq_true_iff.mp (List.all_eq_true.mp hasks c hmember)).2
  simp only [read, hchars, hbefore, hbehind, queryOf, hwhole, Nat.not_lt.mpr hfits, hpath_fits,
    if_false, Option.getD_some, hquery_fits, Bool.and_self, if_true, Option.map_some,
    String.ofList_toList]

end Url.Target

namespace Cluster

def fieldManagerQuery : String := "&fieldManager=provider-cloudflare"

/-- Where a part of a resource is patched. -/
def patchTarget (name part : String) : Url.Target :=
  ⟨objectsPath .credentials ++ "/" ++ name ++ part, some fieldManagerQuery⟩

theorem read_patchTarget {name part : String} (hproper : ProperName name)
    (hplain : part.toList.all Url.Target.isPathChar) (hshort : part.utf8ByteSize ≤ 7)
    (patch : Json) :
    Url.Target.read
        (targetText (objectsPath .credentials) name part (Verb.merge patch).parameters) =
      .ok (patchTarget name part) := by
  obtain ⟨-, hbounded, hletters⟩ := hproper
  have text : targetText (objectsPath .credentials) name part (Verb.merge patch).parameters =
      objectsPath .credentials ++ "/" ++ name ++ part ++ "?" ++ fieldManagerQuery := by
    simp only [targetText, Verb.parameters, List.foldl_cons, List.foldl_nil, String.append_assoc]
    rfl
  rw [text]
  refine Url.Target.read_append ?_ (by decide +kernel) ?_
  · have hname_plain : name.toList.all Url.Target.isPathChar :=
      List.all_eq_true.mpr fun c hmember =>
        Url.Target.isPathChar_of_isNameChar (List.all_eq_true.mp hletters c hmember)
    have hcollection_plain :
        (objectsPath .credentials ++ "/").toList.all Url.Target.isPathChar := by
      decide +kernel
    rw [String.toList_append, String.toList_append, List.all_append, List.all_append,
      hcollection_plain, hname_plain, hplain]
    rfl
  · have hcollection_size : (objectsPath .credentials ++ "/").utf8ByteSize ≤ 100 := by
      decide +kernel
    have hquery_size : ("?" ++ fieldManagerQuery).utf8ByteSize ≤ 100 := by decide +kernel
    simp only [String.utf8ByteSize_append] at hcollection_size hquery_size ⊢
    simp only [Url.Target.sizeLimit]
    omega

end Cluster

end BucketKeys
