import BucketKeys.Proofs.Text.Percent
import BucketKeys.Url.Target

/-!
Segments of paths. No segment holds a mark that would end it, be it read with a URL or added to one,
so that the text of a path tells its segments.
-/

namespace BucketKeys.Url

/-- Neither a control, nor a space, nor foreign, nor a mark that ends a segment. -/
def Fits (c : Char) : Prop :=
  0x20 < c.toNat ∧ c.toNat < 0x7F ∧ c ≠ '/' ∧ c ≠ '?' ∧ c ≠ '#'

def IsSegment (segment : String) : Prop :=
  ∀ c ∈ segment.toList, Fits c

theorem fits_of_isAlphanum {c : Char} (halphanum : c.isAlphanum = true) : Fits c := by
  change (decide (65 ≤ c.val ∧ c.val ≤ 90) || (decide (97 ≤ c.val) && decide (c.val ≤ 122)) ||
    (decide (48 ≤ c.val) && decide (c.val ≤ 57))) = true at halphanum
  simp only [Bool.or_eq_true, Bool.and_eq_true, decide_eq_true_eq,
    UInt32.le_iff_toNat_le] at halphanum
  change ((65 ≤ c.toNat ∧ c.toNat ≤ 90) ∨ (97 ≤ c.toNat ∧ c.toNat ≤ 122)) ∨
    (48 ≤ c.toNat ∧ c.toNat ≤ 57) at halphanum
  have hmark {other : Char} (hcode : other.toNat ∈ [0x2F, 0x3F, 0x23]) : c ≠ other := by
    rintro rfl
    simp only [List.mem_cons, List.not_mem_nil, or_false] at hcode
    omega
  exact ⟨by omega, by omega, hmark (by decide), hmark (by decide), hmark (by decide)⟩

theorem fits_of_not_inPath {c : Char} (hpassing : inPath c = false) (hslash : c ≠ '/') :
    Fits c := by
  simp only [inPath, Bool.or_eq_false_iff, beq_eq_false_iff_ne] at hpassing
  obtain ⟨⟨⟨⟨hfragment, hsharp⟩, hquestion⟩, -⟩, -⟩ := hpassing
  simp only [inFragment, isControlOrForeign, Bool.or_eq_false_iff, decide_eq_false_iff_not,
    beq_eq_false_iff_ne] at hfragment
  obtain ⟨⟨⟨⟨⟨⟨hcontrol, hforeign⟩, hspace⟩, -⟩, -⟩, -⟩, -⟩ := hfragment
  have hcode : c.toNat ≠ 0x20 := fun hsame => hspace (Char.toNat_inj.mp hsame)
  exact ⟨by omega, by omega, hslash, hquestion, hsharp⟩

theorem fits_of_not_inSegment {special : Bool} {c : Char} (hpassing : inSegment special c = false) :
    Fits c := by
  simp only [inSegment, Bool.or_eq_false_iff, beq_eq_false_iff_ne] at hpassing
  exact fits_of_not_inPath hpassing.1.1.1 hpassing.1.1.2

theorem isSegment_encodeChars {escaped : Char → Bool} {text : List Char}
    (hpassing : ∀ c ∈ text, escaped c = false → Fits c) :
    IsSegment (String.ofList (Text.Percent.encodeChars escaped text)) := by
  intro c hmember
  rw [String.toList_ofList] at hmember
  rcases Text.Percent.mem_encodeChars hmember with rfl | halphanum | ⟨hpresent, hkept⟩
  · simp [Fits]
  · exact fits_of_isAlphanum halphanum
  · exact hpassing c hpresent hkept

namespace Read

theorem isSegment_walk {taken : List String} {parts : List (List Char)}
    (hclean : ∀ segment ∈ taken, IsSegment segment) (hunslashed : ∀ part ∈ parts, '/' ∉ part) :
    ∀ segment ∈ walk taken parts, IsSegment segment := by
  -- What was taken before is clean whatever the parts are, and stays so with every part.
  induction parts generalizing taken with
  | nil => exact hclean
  | cons part parts ih =>
      obtain ⟨hfirst, hothers⟩ := List.forall_mem_cons.mp hunslashed
      have hextended {more : String} (hfits : IsSegment more) {kept : List String}
          (hclean : ∀ segment ∈ kept, IsSegment segment) :
          ∀ segment ∈ kept ++ [more], IsSegment segment := by
        intro segment hmember
        rcases List.mem_append.mp hmember with hearlier | hlast
        · exact hclean segment hearlier
        · exact List.mem_singleton.mp hlast ▸ hfits
      have hended {kept : List String} (hclean : ∀ segment ∈ kept, IsSegment segment) :
          ∀ segment ∈ kept ++ (if parts.isEmpty then [""] else []), IsSegment segment := by
        split
        · exact hextended (by simp [IsSegment]) hclean
        · simpa using hclean
      unfold walk
      dsimp only
      split
      · exact ih (hended fun segment hmember => hclean segment (List.dropLast_subset _ hmember))
          hothers
      · split
        · exact ih (hended hclean) hothers
        · refine ih (hextended (isSegment_encodeChars ?_) hclean) hothers
          intro c hmember hpassing
          exact fits_of_not_inPath hpassing fun hsame => hfirst (hsame ▸ hmember)

theorem isSegment_path (special : Bool) (text : List Char) :
    ∀ segment ∈ path special text, IsSegment segment := by
  cases text with
  | nil => cases special <;> simp [path, IsSegment]
  | cons slash rest =>
      apply isSegment_walk
      · simp
      · intro part hmember slash
        have hunmarked := Text.isMark_of_mem_pieces hmember slash
        simp [isSlash] at hunmarked

theorem path_of_file? {text : List Char} {authority : Option Authority} {segments : List String}
    (hreads : file? text = some (authority, segments)) :
    ∃ special rest, segments = path special rest := by
  unfold file? at hreads
  split at hreads
  · split at hreads
    · dsimp only at hreads
      split at hreads
      · cases hreads
        exact ⟨_, _, rfl⟩
      · split at hreads
        · cases hreads
          exact ⟨_, _, rfl⟩
        · obtain ⟨host, -, hsame⟩ := Option.bind_eq_some_iff.mp hreads
          cases hsame
          exact ⟨_, _, rfl⟩
    · split at hreads
      · cases hreads
        exact ⟨_, _, rfl⟩
      · cases hreads
        exact ⟨_, _, rfl⟩
  · cases hreads
    exact ⟨_, _, rfl⟩
  · cases hreads
    exact ⟨_, _, rfl⟩

theorem path_of_rooted? {scheme : String} {text : List Char} {query fragment : Option String}
    {url : Rooted} (hreads : rooted? scheme text query fragment = some url) :
    ∃ special rest, url.path = path special rest := by
  unfold rooted? at hreads
  split at hreads
  · obtain ⟨⟨authority, segments⟩, hfile, hsame⟩ := Option.bind_eq_some_iff.mp hreads
    cases hsame
    exact path_of_file? hfile
  · obtain ⟨⟨authority, left⟩, -, hsame⟩ := Option.bind_eq_some_iff.mp hreads
    cases hsame
    exact ⟨_, _, rfl⟩

end Read

theorem isSegment_of_read? {text : String} {url : Rooted}
    (hreads : read? text = some (.rooted url)) :
    ∀ segment ∈ url.path, IsSegment segment := by
  have hread : ∃ special rest, url.path = Read.path special rest := by
    unfold read? at hreads
    obtain ⟨⟨scheme, rest⟩, -, hreads⟩ := Option.bind_eq_some_iff.mp hreads
    dsimp only at hreads
    split at hreads
    · obtain ⟨rooted, hreads, hsame⟩ := Option.bind_eq_some_iff.mp hreads
      cases hsame
      exact Read.path_of_rooted? hreads
    · split at hreads
      · obtain ⟨rooted, hreads, hsame⟩ := Option.bind_eq_some_iff.mp hreads
        cases hsame
        exact Read.path_of_rooted? hreads
      · cases hreads
        exact ⟨_, _, rfl⟩
      · cases hreads
  obtain ⟨special, rest, hsame⟩ := hread
  rw [hsame]
  exact Read.isSegment_path special rest

def slashed (path : List String) : String :=
  String.join (path.map ("/" ++ ·))

theorem slashed_eq {path : List String} (hnonempty : path ≠ []) :
    "/" ++ "/".intercalate path = slashed path := by
  induction path with
  | nil => exact absurd rfl hnonempty
  | cons segment rest ih =>
      cases rest with
      | nil => simp [slashed]
      | cons next rest =>
          rw [String.intercalate_cons_cons, String.append_assoc, ih (by simp),
            ← String.append_assoc]
          simp [slashed]

theorem slashed_append (first second : List String) :
    slashed (first ++ second) = slashed first ++ slashed second := by
  rw [slashed, List.map_append, String.join_append]
  rfl

theorem slashed_eq_slash {path : List String} (hsame : slashed path = "/") : path = [""] := by
  cases path with
  | nil => simp [slashed] at hsame
  | cons segment rest =>
      have hchars : segment.toList ++ (slashed rest).toList = [] := by
        have := congrArg String.toList hsame
        simpa [slashed] using this
      obtain ⟨hempty, hnone⟩ := List.append_eq_nil_iff.mp hchars
      cases rest with
      | nil => rw [String.toList_eq_nil_iff.mp hempty]
      | cons next rest => simp [slashed] at hnone

/-- The path less one slash at its end, where two slashes are the same as one. -/
def trimmed (path : String) : String :=
  if path = "//" then ""
  else if path.toList.getLast? = some '/' then String.ofList path.toList.dropLast
  else path

theorem trimmed_append_slash {path : String} (hlonger : path ≠ "/") :
    trimmed (path ++ "/") = path := by
  have hseveral : path ++ "/" ≠ "//" :=
      fun hsame => hlonger (String.append_left_inj "/" |>.mp hsame)
  rw [trimmed, if_neg hseveral]
  simp

theorem trimmed_of_ne {path : String} (hending : path.toList.getLast? ≠ some '/') :
    trimmed path = path := by
  have hseveral : path ≠ "//" := by
    rintro rfl
    exact hending rfl
  rw [trimmed, if_neg hseveral, if_neg hending]

namespace Rooted

/-- The segments without an empty one at their end, where two slashes are the same as one. -/
def stem (url : Rooted) : List String :=
  if url.path = ["", ""] then []
  else if url.path.getLast? = some "" then url.path.dropLast
  else url.path

variable {url : Rooted} {before : List String}

theorem stem_of_slash (hpath : url.path = before ++ [""]) :
    url.stem = if before = [""] then [] else before := by
  have hsame : before ++ [""] = ["", ""] ↔ before = [""] := by
    change before ++ [""] = [""] ++ [""] ↔ _
    exact List.append_left_inj [""]
  simp [stem, hpath, hsame]

theorem stem_of_ne (hpath : url.path.getLast? ≠ some "") : url.stem = url.path := by
  have hseveral : url.path ≠ ["", ""] := by
    intro hsame
    exact hpath (by rw [hsame]; rfl)
  rw [stem, if_neg hseveral, if_neg hpath]

theorem mem_path_of_mem_stem {segment : String} (hmember : segment ∈ url.stem) :
    segment ∈ url.path := by
  unfold stem at hmember
  split at hmember
  · cases hmember
  · split at hmember
    · exact List.dropLast_subset _ hmember
    · exact hmember

theorem path_withoutLastSlash (url : Rooted) : url.withoutLastSlash.path = url.stem := by
  by_cases hlast : url.path.getLast? = some ""
  · obtain ⟨before, hpath⟩ := List.getLast?_eq_some_iff.mp hlast
    rw [stem_of_slash hpath]
    simp [withoutLastSlash, hpath]
  · have hsingle : url.path ≠ [""] := by
      intro hsame
      exact hlast (by rw [hsame]; rfl)
    rw [stem_of_ne hlast]
    simp [withoutLastSlash, hlast, hsingle]

theorem trimmed_path (hclean : ∀ segment ∈ url.path, IsSegment segment) :
    trimmed ("/" ++ "/".intercalate url.path) = slashed url.stem := by
  by_cases hlast : url.path.getLast? = some ""
  · obtain ⟨before, hpath⟩ := List.getLast?_eq_some_iff.mp hlast
    have htext : "/" ++ "/".intercalate url.path = slashed before ++ "/" := by
      rw [hpath, slashed_eq (by simp), slashed_append]
      simp [slashed]
    rw [stem_of_slash hpath, htext]
    split
    · rename_i root
      rw [root]
      rfl
    · rename_i longer
      exact trimmed_append_slash fun hsame => longer (slashed_eq_slash hsame)
  · -- A segment that is written ends in a character that fits, so no slash is taken off.
    rw [stem_of_ne hlast]
    rcases List.eq_nil_or_concat url.path with hnone | ⟨before, final, hpath⟩
    · rw [hnone]
      rfl
    · rw [List.concat_eq_append] at hpath
      have htext : slashed url.path = slashed before ++ "/" ++ final := by
        rw [hpath, slashed_append]
        simp [slashed, String.append_assoc]
      have hwritten : final.toList ≠ [] := by
        intro hempty
        exact hlast (by rw [hpath, String.toList_eq_nil_iff.mp hempty, List.getLast?_concat])
      rw [slashed_eq (by simp [hpath])]
      apply trimmed_of_ne
      rw [htext, String.toList_append, List.getLast?_append,
        List.getLast?_eq_some_getLast hwritten, Option.some_or]
      have hfits := hclean final (by simp [hpath]) _ (List.getLast_mem hwritten)
      simpa using hfits.2.2.1

def kept (text : String) : List Char :=
  text.toList.filter (!isDropped ·)

/-- The segment that a text becomes, where it takes no step. -/
def encoded (url : Rooted) (text : String) : String :=
  String.ofList (Text.Percent.encodeChars (inSegment (isSpecial url.scheme)) (kept text))

theorem isSegment_encoded (url : Rooted) (text : String) : IsSegment (url.encoded text) :=
  isSegment_encodeChars fun _ _ hpassing => fits_of_not_inSegment hpassing

theorem decode_encoded (url : Rooted) (text : String) :
    Text.Percent.decode (url.encoded text).toList = Text.encodeChars (kept text) := by
  rw [encoded, String.toList_ofList]
  exact Text.Percent.decode_encodeChars (by simp [inSegment]) (kept text)

theorem encoded_ne {text : String} {plain : List Char}
    (hpassing : ∀ special, plain.all (!inSegment special ·) = true) (hother : kept text ≠ plain)
    (url : Rooted) : url.encoded text ≠ String.ofList plain := by
  intro hsame
  have heach : ∀ c ∈ plain, inSegment (isSpecial url.scheme) c = false := by
    simpa using hpassing (isSpecial url.scheme)
  have hchars := String.ofList_injective hsame
  rw [← Text.Percent.encodeChars_of_forall heach] at hchars
  exact hother (Text.Percent.encodeChars_injective (by simp [inSegment]) hchars)

theorem path_append {text : String} (hhere : text ≠ ".") (hup : text ≠ "..") (url : Rooted) :
    (url.append text).path =
      if kept text = ['.'] then url.path ++ [""]
      else if kept text = ['.', '.'] then url.path.dropLast ++ [""]
      else url.path ++ [url.encoded text] := by
  have hnoStep : (text == "." || text == "..") = false := by simp [hhere, hup]
  simp only [append, hnoStep, Bool.false_eq_true, if_false, beq_iff_eq]
  rfl

theorem path_append_of_plain {text : String} (hhere : text ≠ ".") (hup : text ≠ "..")
    (hwhole : text.toList.all (!isDropped ·) = true)
    (hplain : ∀ special, text.toList.all (!inSegment special ·) = true)
    (url : Rooted) : (url.append text).path = url.path ++ [text] := by
  have hwhole : kept text = text.toList := List.filter_eq_self.mpr (List.all_eq_true.mp hwhole)
  have heach : ∀ c ∈ text.toList, inSegment (isSpecial url.scheme) c = false := by
    simpa using hplain (isSpecial url.scheme)
  have hsame : url.encoded text = text := by
    rw [encoded, hwhole, Text.Percent.encodeChars_of_forall heach, String.ofList_toList]
  have hstays : kept text ≠ ['.'] := by
    rw [hwhole]
    exact fun hsame => hhere (String.toList_injective hsame)
  have hdescends : kept text ≠ ['.', '.'] := by
    rw [hwhole]
    exact fun hsame => hup (String.toList_injective hsame)
  rw [path_append hhere hup, if_neg hstays, if_neg hdescends, hsame]

theorem path_below {text : String} (hhere : text ≠ ".") (hup : text ≠ "..") (url : Rooted) :
    (url.below ["user", "tokens", text]).path =
      if kept text = ['.'] then url.stem ++ ["user", "tokens", ""]
      else if kept text = ['.', '.'] then url.stem ++ ["user", ""]
      else url.stem ++ ["user", "tokens", url.encoded text] := by
  change (((url.withoutLastSlash.append "user").append "tokens").append text).path = _
  have huser (url : Rooted) : (url.append "user").path = url.path ++ ["user"] :=
    path_append_of_plain (by decide) (by decide) (by decide) (by decide) url
  have htokens (url : Rooted) : (url.append "tokens").path = url.path ++ ["tokens"] :=
    path_append_of_plain (by decide) (by decide) (by decide) (by decide) url
  rw [path_append hhere hup, htokens, huser, path_withoutLastSlash]
  split
  · simp
  · split
    · simp
    · simp [encoded, append, withoutLastSlash]

theorem below_eq (segments : List String) (url : Rooted) :
    url.below segments = { url with path := (url.below segments).path } := by
  have hadded (below : Rooted) :
      segments.foldl (fun url segment => url.append segment) below =
        { below with
          path := (segments.foldl (fun url segment => url.append segment) below).path } := by
    induction segments generalizing below with
    | nil => rfl
    | cons segment segments ih => exact ih (below.append segment)
  exact hadded url.withoutLastSlash

theorem query_below (segments : List String) (url : Rooted) :
    (url.below segments).query = url.query := by
  rw [below_eq]

theorem isWeb_below (segments : List String) (url : Rooted) :
    (url.below segments).isWeb = url.isWeb := by
  rw [below_eq]
  rfl

end Rooted

end BucketKeys.Url
