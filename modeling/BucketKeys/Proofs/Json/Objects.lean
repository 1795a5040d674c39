import BucketKeys.Json.Decode
import BucketKeys.Json.Trouble
import BucketKeys.Proofs.Json.Spelling
import BucketKeys.Proofs.Text.Utf8

/-!
How an object of texts may be written. Every way of writing one is read as its texts in their order,
and nothing else is.
-/

namespace BucketKeys.Json

open Text (Glyph)
open Read (Input)

/-! Ways to write an object of texts -/

def Blank (written : List Char) : Prop :=
  ∀ c ∈ written, c ∈ [' ', '\n', '\t', '\r']

inductive Member : List Char → String × String → Prop where
  | mk {front name middle gap value back : List Char} {key text : String}
      (blank : Blank (front ++ middle ++ gap ++ back)) (named : Quotes name key)
      (tells : Quotes value text) :
      Member (front ++ (name ++ (middle ++ ':' :: (gap ++ (value ++ back))))) (key, text)

inductive Members : List Char → List (String × String) → Prop where
  | last {written : List Char} {entry : String × String} (member : Member written entry) :
      Members written [entry]
  | more {written later : List Char} {entry : String × String} {entries : List (String × String)}
      (member : Member written entry) (members : Members later entries) :
      Members (written ++ ',' :: later) (entry :: entries)

inductive Object : List Char → List (String × String) → Prop where
  | empty {front inside back : List Char} (blank : Blank (front ++ inside ++ back)) :
      Object (front ++ '\x7b' :: (inside ++ '\x7d' :: back)) []
  | full {front inside back : List Char} {entries : List (String × String)}
      (blank : Blank (front ++ back)) (members : Members inside entries) :
      Object (front ++ '\x7b' :: (inside ++ '\x7d' :: back)) entries

/-! White space -/

theorem isSpace_char {c : Char} :
    Read.isSpace (.char c) = true ↔ c ∈ [' ', '\n', '\t', '\r'] := by
  simp [Read.isSpace]

theorem skipSpace_blank {front : List Char} (hblank : Blank front) (rest : Input) :
    Read.skipSpace (front.map Glyph.char ++ rest) = Read.skipSpace rest := by
  refine List.dropWhile_append_of_pos ?_
  intro glyph hmember
  obtain ⟨c, hlisted, rfl⟩ := List.mem_map.mp hmember
  exact isSpace_char.mpr (hblank c hlisted)

theorem exists_blank (input : Input) :
    ∃ front, Blank front ∧ input = front.map Glyph.char ++ Read.skipSpace input := by
  induction input with
  | nil => exact ⟨[], by simp [Blank], rfl⟩
  | cons first rest ih =>
      cases hspace : Read.isSpace first with
      | false =>
          refine ⟨[], by simp [Blank], ?_⟩
          simp [Read.skipSpace, List.dropWhile_cons_of_neg, hspace]
      | true =>
          cases first with
          | stray byte => cases hspace
          | char c =>
              obtain ⟨front, hblank, hsplit⟩ := ih
              refine ⟨c :: front, List.forall_mem_cons.mpr ⟨isSpace_char.mp hspace, hblank⟩, ?_⟩
              rw [Read.skipSpace, List.dropWhile_cons_of_pos hspace, List.map_cons,
                  List.cons_append]
              exact congrArg _ hsplit

/-- What is not white space is found behind the white space in front of it. -/
theorem skipSpace_eq_cons_iff {c : Char} (hvisible : c ∉ [' ', '\n', '\t', '\r'])
    {input rest : Input} :
    Read.skipSpace input = .char c :: rest ↔
      ∃ front, Blank front ∧ input = front.map Glyph.char ++ .char c :: rest := by
  constructor
  · intro hfound
    obtain ⟨front, hblank, hsplit⟩ := exists_blank input
    rw [hfound] at hsplit
    exact ⟨front, hblank, hsplit⟩
  · rintro ⟨front, hblank, rfl⟩
    rw [skipSpace_blank hblank]
    exact List.dropWhile_cons_of_neg (mt isSpace_char.mp hvisible)

theorem quote_visible : '"' ∉ [' ', '\n', '\t', '\r'] := by decide

theorem colon_visible : ':' ∉ [' ', '\n', '\t', '\r'] := by decide

theorem comma_visible : ',' ∉ [' ', '\n', '\t', '\r'] := by decide

theorem openBrace_visible : '\x7b' ∉ [' ', '\n', '\t', '\r'] := by decide

theorem closeBrace_visible : '\x7d' ∉ [' ', '\n', '\t', '\r'] := by decide

theorem blank_append {first second : List Char} :
    Blank (first ++ second) ↔ Blank first ∧ Blank second :=
  List.forall_mem_append

/-! Values -/

def Bare : Json → Prop
  | .string _ => False
  | .object _ => False
  | _ => True

theorem bare_ofDouble (negative : Bool) (magnitude : Option Float) :
    Bare (Read.ofDouble negative magnitude) := by
  cases magnitude <;> trivial

theorem bare_numberValue (negative : Bool) (whole fraction : List Char) (exponent : Option Int) :
    Bare (Read.numberValue negative whole fraction exponent) := by
  unfold Read.numberValue
  dsimp only
  split
  · split
    · trivial
    · split
      · exact bare_ofDouble _ _
      · trivial
  · exact bare_ofDouble _ _

theorem bare_unsignedNumber? {negative : Bool} {input rest : Input} {json : Json}
    (hread : Read.unsignedNumber? negative input = some (json, rest)) : Bare json := by
  simp only [Read.unsignedNumber?, bind, pure, Option.bind_eq_some_iff, Option.some.injEq,
    Prod.mk.injEq] at hread
  obtain ⟨_, -, _, -, _, -, rfl, -⟩ := hread
  exact bare_numberValue _ _ _ _

theorem bare_literal? {text : List Char} {value json : Json} {input rest : Input}
    (hbare : Bare value)
    (hread : Read.literal? text value input = some (json, rest)) : Bare json := by
  unfold Read.literal? at hread
  split at hread
  · cases hread
    exact hbare
  · cases hread

theorem bare_contained {depth : Nat} {json : Json} (hbare : Bare json) :
    Bare (Read.contained depth json) := by
  unfold Read.contained
  split
  · trivial
  · exact hbare

theorem value?_cases {fuel depth : Nat} {input rest : Input} {json : Json}
    (hread : Read.value? (fuel + 1) depth input = some (json, rest)) :
    (∃ tail text, Read.skipSpace input = .char '"' :: tail ∧
      Read.stringBody tail = some (text, rest) ∧ json = Read.ofChars text) ∨
    (∃ tail, ∃ members : Read.Members, Read.skipSpace input = .char '\x7b' :: tail ∧
      json = Read.contained depth members.toJson ∧
        ((Read.skipSpace tail = .char '\x7d' :: rest ∧ members = some []) ∨
          Read.members? fuel (depth - 1) (Read.skipSpace tail) = some (members, rest))) ∨
    Bare json := by
  rw [Read.value?] at hread
  split at hread
  case h_1 tail opened =>
      obtain ⟨⟨text, rest⟩, hbody, hsame⟩ := Option.map_eq_some_iff.mp hread
      cases hsame
      exact .inl ⟨tail, text, opened, hbody, rfl⟩
  case h_2 tail opened =>
      split at hread
      · cases hread
        exact .inr (.inr (bare_contained trivial))
      · obtain ⟨⟨items, rest⟩, -, hsame⟩ := Option.map_eq_some_iff.mp hread
        cases hsame
        exact .inr (.inr (bare_contained trivial))
  case h_3 tail opened =>
      split at hread
      case h_1 hclosed =>
          cases hread
          exact .inr (.inl ⟨tail, some [], opened, rfl, .inl ⟨hclosed, rfl⟩⟩)
      case h_2 =>
          obtain ⟨⟨members, rest⟩, hfollows, hsame⟩ := Option.map_eq_some_iff.mp hread
          cases hsame
          exact .inr (.inl ⟨tail, members, opened, rfl, .inr hfollows⟩)
  case h_4 | h_8 => exact .inr (.inr (bare_unsignedNumber? hread))
  case h_5 | h_6 | h_7 => exact .inr (.inr (bare_literal? (by trivial) hread))

theorem ofChars_eq_string_iff {chars : Option (List Char)} {text : String} :
    Read.ofChars chars = .string text ↔ chars = some text.toList := by
  cases chars with
  | none => simp [Read.ofChars]
  | some chars =>
      simp only [Read.ofChars, Json.string.injEq, Option.some.injEq]
      constructor
      · rintro rfl
        exact String.toList_ofList.symm
      · rintro rfl
        exact String.ofList_toList

theorem contained_eq_object {depth : Nat} {members : Read.Members} {known : List (String × Json)}
    (hsame : Read.contained depth members.toJson = .object known) : members = some known := by
  unfold Read.contained at hsame
  split at hsame
  · cases hsame
  · cases members with
    | none => cases hsame
    | some members =>
        cases hsame
        rfl

theorem contained_ne_string {depth : Nat} {members : Read.Members} {text : String} :
    Read.contained depth members.toJson ≠ .string text := by
  unfold Read.contained
  split
  · rintro ⟨⟩
  · cases members <;> rintro ⟨⟩

theorem value?_string_iff {fuel depth : Nat} {input rest : Input} {text : String} :
    Read.value? (fuel + 1) depth input = some (.string text, rest) ↔
      ∃ tail, Read.skipSpace input = .char '"' :: tail ∧ Closes tail text.toList rest := by
  constructor
  · intro hread
    rcases value?_cases hread with
        ⟨tail, chars, hopened, hbody, hsame⟩ | ⟨_, _, -, hsame, -⟩ | hbare
    · cases ofChars_eq_string_iff.mp hsame.symm
      exact ⟨tail, hopened, closes_of_stringBody hbody⟩
    · exact absurd hsame.symm contained_ne_string
    · exact hbare.elim
  · rintro ⟨tail, hopened, hcloses⟩
    rw [Read.value?, hopened]
    simp only [stringBody_of_closes hcloses, Option.map_some, Read.ofChars, String.ofList_toList]

/-! Members -/

inductive MemberRead (fuel depth : Nat) :
    Input → Option (List Char) → Json → Input → Prop where
  | mk {input quoted between valued behind : Input} {name : Option (List Char)} {value : Json}
      (opened : Read.skipSpace input = .char '"' :: quoted)
      (named : Read.stringBody quoted = some (name, between))
      (told : Read.skipSpace between = .char ':' :: valued)
      (read : Read.value? fuel depth valued = some (value, behind)) :
      MemberRead fuel depth input name value behind

theorem MemberRead.opened {fuel depth : Nat} {input behind : Input} {name : Option (List Char)}
    {value : Json} (hread : MemberRead fuel depth input name value behind) :
    ∃ quoted, Read.skipSpace input = .char '"' :: quoted := by
  obtain ⟨hopened, -, -, -⟩ := hread
  exact ⟨_, hopened⟩

theorem members?_eq_some_iff {fuel depth : Nat} {input rest : Input} {members : Read.Members} :
    Read.members? (fuel + 1) depth input = some (members, rest) ↔
      ∃ name value behind, MemberRead fuel depth input name value behind ∧
        ((∃ later more, Read.skipSpace behind = .char ',' :: later ∧
            Read.members? fuel depth later = some (more, rest) ∧ members = more.push name value) ∨
          (Read.skipSpace behind = .char '\x7d' :: rest ∧
            members = Read.Members.push name value (some []))) := by
  constructor
  · intro hread
    rw [Read.members?] at hread
    split at hread
    · rename_i quoted hopened
      split at hread
      · cases hread
      · rename_i name between hnamed
        split at hread
        · rename_i valued htold
          split at hread
          · cases hread
          · rename_i value behind hfound
            refine ⟨name, value, behind, .mk hopened hnamed htold hfound, ?_⟩
            split at hread
            · rename_i later hcomma
              obtain ⟨⟨more, rest⟩, hfollows, hsame⟩ := Option.map_eq_some_iff.mp hread
              cases hsame
              exact .inl ⟨later, more, hcomma, hfollows, rfl⟩
            · rename_i hclosed
              cases hread
              exact .inr ⟨hclosed, rfl⟩
            · cases hread
        · cases hread
    · cases hread
  · rintro ⟨name, value, behind, ⟨hopened, hnamed, htold, hfound⟩,
        ⟨later, more, hcomma, hfollows, rfl⟩ | ⟨hclosed, rfl⟩⟩
    · simp only [Read.members?, hopened, hnamed, htold, hfound, hcomma, hfollows, Option.map_some]
    · simp only [Read.members?, hopened, hnamed, htold, hfound, hclosed]

theorem Closes.quotes {tail rest : Input} {text : String} (hcloses : Closes tail text.toList rest) :
    ∃ written, Quotes written text ∧ .char '"' :: tail = written.map Glyph.char ++ rest := by
  obtain ⟨body, rfl, hspelled⟩ := hcloses
  exact ⟨_, ⟨body, rfl, hspelled⟩, by simp⟩

theorem Quotes.closes {written : List Char} {text : String} (hquotes : Quotes written text)
    (rest : Input) :
    ∃ tail, written.map Glyph.char ++ rest = .char '"' :: tail ∧ Closes tail text.toList rest := by
  obtain ⟨body, rfl, hspelled⟩ := hquotes
  exact ⟨_, by simp, body, rfl, hspelled⟩

theorem MemberRead.member {fuel depth : Nat} {input behind rest : Input} {name text : String}
    {mark : Char} (hvisible : mark ∉ [' ', '\n', '\t', '\r'])
    (hread : MemberRead (fuel + 1) depth input (some name.toList) (.string text) behind)
    (hmarked : Read.skipSpace behind = .char mark :: rest) :
    ∃ written, Member written (name, text) ∧
      input = written.map Glyph.char ++ .char mark :: rest := by
  obtain ⟨hopened, hnamed, htold, hfound⟩ := hread
  obtain ⟨quoted, hopens, htells⟩ := value?_string_iff.mp hfound
  obtain ⟨front, hbefore, rfl⟩ := (skipSpace_eq_cons_iff quote_visible).mp hopened
  obtain ⟨key, hcalls, hfirst⟩ := (closes_of_stringBody hnamed).quotes
  obtain ⟨middle, hbetween, rfl⟩ := (skipSpace_eq_cons_iff colon_visible).mp htold
  obtain ⟨gap, hapart, rfl⟩ := (skipSpace_eq_cons_iff quote_visible).mp hopens
  obtain ⟨value, hmeans, hsecond⟩ := htells.quotes
  obtain ⟨back, hafter, rfl⟩ := (skipSpace_eq_cons_iff hvisible).mp hmarked
  have hblank :=
      blank_append.mpr ⟨blank_append.mpr ⟨blank_append.mpr ⟨hbefore, hbetween⟩, hapart⟩, hafter⟩
  refine ⟨_, .mk hblank hcalls hmeans, ?_⟩
  rw [hfirst, hsecond]
  simp

theorem Member.read {written : List Char} {entry : String × String} (hmember : Member written entry)
    {mark : Char} (hvisible : mark ∉ [' ', '\n', '\t', '\r']) (fuel depth : Nat) (rest : Input) :
    ∃ behind, MemberRead (fuel + 1) depth (written.map Glyph.char ++ .char mark :: rest)
        (some entry.1.toList) (.string entry.2) behind ∧
      Read.skipSpace behind = .char mark :: rest := by
  obtain ⟨hblank, hcalls, hmeans⟩ := hmember
  rename_i front key middle gap value back name text
  simp only [blank_append] at hblank
  obtain ⟨⟨⟨hbefore, hbetween⟩, hapart⟩, hafter⟩ := hblank
  obtain ⟨valued, hsecond, htells⟩ := hmeans.closes (back.map Glyph.char ++ .char mark :: rest)
  obtain ⟨quoted, hfirst, hnamed⟩ := hcalls.closes (middle.map Glyph.char ++
    .char ':' :: (gap.map Glyph.char ++ .char '"' :: valued))
  have hopens : Read.skipSpace (gap.map Glyph.char ++ .char '"' :: valued) =
      .char '"' :: valued := (skipSpace_eq_cons_iff quote_visible).mpr ⟨gap, hapart, rfl⟩
  refine ⟨_, .mk ((skipSpace_eq_cons_iff quote_visible).mpr ⟨front, hbefore, ?_⟩)
    (stringBody_of_closes hnamed)
    ((skipSpace_eq_cons_iff colon_visible).mpr ⟨middle, hbetween, rfl⟩)
    (value?_string_iff.mpr ⟨valued, hopens, htells⟩),
    (skipSpace_eq_cons_iff hvisible).mpr ⟨back, hafter, rfl⟩⟩
  rw [← hfirst, ← hsecond]
  simp

/-! Objects -/

def ofTexts (texts : List (String × String)) : List (String × Json) :=
  texts.map fun entry => (entry.1, .string entry.2)

theorem push_eq_ofTexts_iff {name : Option (List Char)} {value : Json} {more : Read.Members}
    {entries : List (String × String)} :
    more.push name value = some (ofTexts entries) ↔ ∃ entry later, entries = entry :: later ∧
      name = some entry.1.toList ∧ value = .string entry.2 ∧ more = some (ofTexts later) := by
  constructor
  · intro hsame
    cases name with
    | none => cases hsame
    | some name =>
        cases more with
        | none => cases hsame
        | some more =>
            cases entries with
            | nil => cases hsame
            | cons entry later =>
                obtain ⟨hfirst, rfl⟩ := List.cons.inj (Option.some.inj hsame)
                obtain ⟨hnamed, rfl⟩ := Prod.mk.inj hfirst
                exact ⟨entry, later, rfl, by rw [← hnamed, String.toList_ofList], rfl, rfl⟩
  · rintro ⟨entry, later, rfl, rfl, rfl, rfl⟩
    simp [Read.Members.push, ofTexts]

theorem members_of_members? {fuel depth : Nat} {input rest : Input}
    {entries : List (String × String)}
    (hread : Read.members? fuel depth input = some (some (ofTexts entries), rest)) :
    ∃ inside, Members inside entries ∧ input = inside.map Glyph.char ++ .char '\x7d' :: rest := by
  induction fuel generalizing input entries with
  | zero => cases hread
  | succ fuel ih =>
      obtain ⟨name, value, behind, hmember, hfollows⟩ := members?_eq_some_iff.mp hread
      -- the value takes fuel as well, so that a member is read with two units or more
      cases fuel with
      | zero =>
          obtain ⟨-, -, -, ⟨⟩⟩ := hmember
      | succ fuel =>
          rcases hfollows with ⟨later, more, hmarked, hfollows, hsame⟩ | ⟨hmarked, hsame⟩
          · obtain ⟨entry, entries, rfl, rfl, rfl, rfl⟩ := push_eq_ofTexts_iff.mp hsame.symm
            obtain ⟨written, hhere, rfl⟩ := hmember.member comma_visible hmarked
            obtain ⟨inside, hmembers, rfl⟩ := ih hfollows
            exact ⟨_, .more hhere hmembers, by simp⟩
          · obtain ⟨entry, none, rfl, rfl, rfl, hnothing⟩ := push_eq_ofTexts_iff.mp hsame.symm
            cases List.map_eq_nil_iff.mp (Option.some.inj hnothing).symm
            obtain ⟨written, hhere, rfl⟩ := hmember.member closeBrace_visible hmarked
            exact ⟨written, .last hhere, rfl⟩

/-- Each member takes one unit of fuel, and the value of the last one takes another. -/
theorem members?_of_members {fuel depth : Nat} {inside : List Char} {rest : Input}
    {entries : List (String × String)} (hmembers : Members inside entries)
    (henough : entries.length < fuel) :
    Read.members? fuel depth (inside.map Glyph.char ++ .char '\x7d' :: rest) =
      some (some (ofTexts entries), rest) := by
  induction hmembers generalizing fuel with
  | @last written entry hmember =>
      obtain ⟨less, rfl⟩ := Nat.exists_eq_add_of_le' henough
      obtain ⟨behind, hread, hclosed⟩ := hmember.read closeBrace_visible less depth rest
      refine members?_eq_some_iff.mpr ⟨_, _, behind, hread, .inr ⟨hclosed, ?_⟩⟩
      exact (push_eq_ofTexts_iff.mpr ⟨entry, [], rfl, rfl, rfl, rfl⟩).symm
  | @more written later entry entries hmember hmembers ih =>
      obtain ⟨less, rfl⟩ := Nat.exists_eq_add_of_le' henough
      rw [List.map_append, List.append_assoc]
      obtain ⟨behind, hread, hmarked⟩ := hmember.read comma_visible (less + entries.length) depth
        (later.map Glyph.char ++ .char '\x7d' :: rest)
      have hfollows := @ih (less + entries.length + 1) (by omega)
      refine members?_eq_some_iff.mpr ⟨_, _, behind, hread, .inl ⟨_, _, hmarked, hfollows, ?_⟩⟩
      exact (push_eq_ofTexts_iff.mpr ⟨entry, entries, rfl, rfl, rfl, rfl⟩).symm

theorem skipSpace_skipSpace (input : Input) :
    Read.skipSpace (Read.skipSpace input) = Read.skipSpace input := by
  obtain ⟨front, hblank, hsplit⟩ := exists_blank input
  have hsame := congrArg Read.skipSpace hsplit
  rw [skipSpace_blank hblank] at hsame
  exact hsame.symm

theorem members?_skipSpace (fuel depth : Nat) (input : Input) :
    Read.members? fuel depth (Read.skipSpace input) = Read.members? fuel depth input := by
  cases fuel with
  | zero => rfl
  | succ fuel => rw [Read.members?, Read.members?, skipSpace_skipSpace]

theorem value?_object {fuel depth : Nat} {input tail rest : Input} {members : Read.Members}
    (hallowed : depth ≠ 0) (hopened : Read.skipSpace input = .char '\x7b' :: tail)
    (hread : Read.members? fuel (depth - 1) tail = some (members, rest)) :
    Read.value? (fuel + 1) depth input = some (members.toJson, rest) := by
  cases fuel with
  | zero => cases hread
  | succ fuel =>
      -- behind the brace stands a quote, and no brace that would close the object at once
      obtain ⟨_, _, _, ⟨hquoted, -, -, -⟩, -⟩ := members?_eq_some_iff.mp hread
      rw [← members?_skipSpace, hquoted] at hread
      simp only [Read.value?, hopened, hquoted]
      split
      · rename_i other
        simp at other
      · rw [hread, Option.map_some, Read.contained, if_neg hallowed]

theorem value?_empty {fuel depth : Nat} {input tail rest : Input} (hallowed : depth ≠ 0)
    (hopened : Read.skipSpace input = .char '\x7b' :: tail)
    (hclosed : Read.skipSpace tail = .char '\x7d' :: rest) :
    Read.value? (fuel + 1) depth input = some (.object [], rest) := by
  simp only [Read.value?, hopened, hclosed, Read.contained, if_neg hallowed]

theorem Members.length_le {inside : List Char} {entries : List (String × String)}
    (hmembers : Members inside entries) : entries.length ≤ inside.length := by
  induction hmembers with
  | last hmember =>
      cases hmember
      simp
      omega
  | more hmember hmembers ih =>
      simp only [List.length_cons, List.length_append]
      omega

/-- The bytes are the text of an object of texts. -/
def Written (data : Bytes) (texts : List (String × String)) : Prop :=
  ∃ chars, Object chars texts ∧ data = Text.encodeChars chars

theorem document?_eq_some_iff {input : Input} {json : Json} {depth : Nat} :
    Read.document? depth input = some json ↔
      ∃ rest, Read.value? (2 * input.length + 2) depth input = some (json, rest) ∧
        Read.skipSpace rest = [] := by
  constructor
  · intro hread
    unfold Read.document? at hread
    split at hread
    · rename_i value rest hvalue
      split at hread
      · rename_i hended
        cases hread
        exact ⟨rest, hvalue, List.isEmpty_iff.mp hended⟩
      · cases hread
    · cases hread
  · rintro ⟨rest, hvalue, hended⟩
    simp [Read.document?, hvalue, hended]

theorem value?_object_iff {fuel depth : Nat} {input rest : Input} {texts : List (String × String)}
    (hallowed : depth ≠ 0) :
    Read.value? (fuel + 1) depth input = some (.object (ofTexts texts), rest) ↔
      ∃ tail, Read.skipSpace input = .char '\x7b' :: tail ∧
        ((Read.skipSpace tail = .char '\x7d' :: rest ∧ texts = []) ∨
          Read.members? fuel (depth - 1) tail = some (some (ofTexts texts), rest)) := by
  constructor
  · intro hread
    obtain ⟨_, text, -, -, hsame⟩ | ⟨tail, members, hopened, hsame, hinner⟩ | hbare :=
      value?_cases hread
    · cases text <;> cases hsame
    · cases contained_eq_object hsame.symm
      refine ⟨tail, hopened, ?_⟩
      obtain ⟨hclosed, hnone⟩ | hmembers := hinner
      · exact .inl ⟨hclosed, List.map_eq_nil_iff.mp (Option.some.inj hnone)⟩
      · rw [members?_skipSpace] at hmembers
        exact .inr hmembers
    · exact hbare.elim
  · rintro ⟨tail, hopened, ⟨hclosed, rfl⟩ | hmembers⟩
    · exact value?_empty hallowed hopened hclosed
    · exact value?_object hallowed hopened hmembers

theorem written_of_read? {data : Bytes} {texts : List (String × String)}
    (hread : read? data = some (.object (ofTexts texts))) : Written data texts := by
  obtain ⟨rest, hvalue, hended⟩ := document?_eq_some_iff.mp hread
  obtain ⟨back, hafter, hbehind⟩ := exists_blank rest
  rw [hended, List.append_nil] at hbehind
  subst hbehind
  obtain ⟨tail, hopened, hinner⟩ := (value?_object_iff (by decide)).mp hvalue
  obtain ⟨front, hbefore, hsplit⟩ := (skipSpace_eq_cons_iff openBrace_visible).mp hopened
  rcases hinner with ⟨hclosed, rfl⟩ | hread
  · obtain ⟨inside, hwithin, rfl⟩ := (skipSpace_eq_cons_iff closeBrace_visible).mp hclosed
    have hblank := blank_append.mpr ⟨blank_append.mpr ⟨hbefore, hwithin⟩, hafter⟩
    refine ⟨_, .empty hblank, ?_⟩
    rw [← Text.glyphs_eq_map_iff, hsplit]
    simp
  · obtain ⟨inside, hmembers, rfl⟩ := members_of_members? hread
    refine ⟨_, .full (blank_append.mpr ⟨hbefore, hafter⟩) hmembers, ?_⟩
    rw [← Text.glyphs_eq_map_iff, hsplit]
    simp

theorem Object.read {chars : List Char} {texts : List (String × String)}
    (hobject : Object chars texts) :
    ∃ back, Blank back ∧ Read.value? (2 * (chars.map Glyph.char).length + 2) depthLimit
      (chars.map Glyph.char) = some (.object (ofTexts texts), back.map Glyph.char) := by
  have hallowed : depthLimit ≠ 0 := by decide
  have hopened (front inside : List Char) (hbefore : Blank front) :
      Read.skipSpace ((front ++ '\x7b' :: inside).map Glyph.char) =
        .char '\x7b' :: inside.map Glyph.char :=
    (skipSpace_eq_cons_iff openBrace_visible).mpr ⟨front, hbefore, by simp⟩
  cases hobject with
  | @empty front inside back hblank =>
      obtain ⟨hblank, hafter⟩ := blank_append.mp hblank
      obtain ⟨hbefore, hwithin⟩ := blank_append.mp hblank
      have hclosed : Read.skipSpace ((inside ++ '\x7d' :: back).map Glyph.char) =
          .char '\x7d' :: back.map Glyph.char :=
        (skipSpace_eq_cons_iff closeBrace_visible).mpr ⟨inside, hwithin, by simp⟩
      exact ⟨back, hafter, value?_empty hallowed (hopened _ _ hbefore) hclosed⟩
  | @full front inside back entries hblank hmembers =>
      obtain ⟨hbefore, hafter⟩ := blank_append.mp hblank
      let chars := front ++ '\x7b' :: (inside ++ '\x7d' :: back)
      have henough : texts.length < 2 * (chars.map Glyph.char).length + 1 := by
        have hfew := hmembers.length_le
        simp only [chars, List.length_map, List.length_append, List.length_cons]
        omega
      have hread : Read.members? (2 * (chars.map Glyph.char).length + 1) (depthLimit - 1)
          ((inside ++ '\x7d' :: back).map Glyph.char) =
            some (some (ofTexts texts), back.map Glyph.char) := by
        have hsplit : (inside ++ '\x7d' :: back).map Glyph.char =
            inside.map Glyph.char ++ .char '\x7d' :: back.map Glyph.char := List.map_append
        rw [hsplit]
        exact members?_of_members hmembers henough
      exact ⟨back, hafter, value?_object hallowed (hopened _ _ hbefore) hread⟩

theorem read?_of_written {data : Bytes} {texts : List (String × String)}
    (hwritten : Written data texts) : read? data = some (.object (ofTexts texts)) := by
  obtain ⟨chars, hobject, rfl⟩ := hwritten
  obtain ⟨back, hafter, hfound⟩ := hobject.read
  have hends := skipSpace_blank hafter []
  rw [List.append_nil] at hends
  rw [read?, Read.document?, Text.glyphs_encodeChars, hfound]
  simp only [hends]
  rfl

/-- Bytes are read as an object of texts exactly if one is written there. -/
theorem read?_eq_ofTexts_iff {data : Bytes} {texts : List (String × String)} :
    read? data = some (.object (ofTexts texts)) ↔ Written data texts :=
  ⟨written_of_read?, read?_of_written⟩

/-! The reader that tells of troubles -/

theorem string_eq_ok_iff {input rest : Input} {text : String} :
    Trouble.string input = .ok (text, rest) ↔ Closes input text.toList rest := by
  rw [← stringBody_eq_some_iff]
  unfold Trouble.string
  split
  case h_1 chars behind hread =>
      rw [hread]
      constructor
      · intro hsame
        cases hsame
        rw [String.toList_ofList]
      · intro hsame
        cases hsame
        rw [String.ofList_toList]
  case h_2 hunread =>
      constructor
      · intro hsame
        cases hsame
      · intro hread
        exact absurd hread (hunread _ _)

theorem text_eq_ok_iff {input rest : Input} {text : String} (fuel depth : Nat) :
    Trouble.text input = .ok (text, rest) ↔
      Read.value? (fuel + 1) depth input = some (.string text, rest) := by
  rw [value?_string_iff]
  unfold Trouble.text
  split
  case h_1 hend => simp [hend]
  case h_2 tail hopened =>
      rw [hopened, string_eq_ok_iff]
      constructor
      · intro hcloses
        exact ⟨tail, rfl, hcloses⟩
      · intro hfound
        obtain ⟨_, hsame, hcloses⟩ := hfound
        cases hsame
        exact hcloses
  case h_3 hother =>
      constructor
      · intro hsame
        cases hsame
      · intro hfound
        obtain ⟨tail, hopened, -⟩ := hfound
        exact absurd hopened (hother tail)

theorem colon_eq_ok_iff {input rest : Input} :
    Trouble.colon input = .ok rest ↔ Read.skipSpace input = .char ':' :: rest := by
  unfold Trouble.colon
  split
  case h_1 hend => simp [hend]
  case h_2 tail htold => simp [htold]
  case h_3 hother =>
      constructor
      · intro hsame
        cases hsame
      · intro htold
        exact absurd htold (hother rest)

theorem member_eq_ok_iff {input quoted behind : Input} {entry : String × String}
    (hopened : Read.skipSpace input = .char '"' :: quoted) (fuel depth : Nat) :
    Trouble.member quoted = .ok (entry, behind) ↔
      MemberRead (fuel + 1) depth input (some entry.1.toList) (.string entry.2) behind := by
  unfold Trouble.member
  constructor
  · intro hread
    split at hread
    · cases hread
    · rename_i name between hnamed
      split at hread
      · cases hread
      · rename_i valued htold
        cases htext : Trouble.text valued with
        | error trouble => simp [htext, Except.map] at hread
        | ok found =>
            rw [htext] at hread
            cases hread
            exact .mk hopened (stringBody_of_closes (string_eq_ok_iff.mp hnamed))
              (colon_eq_ok_iff.mp htold) ((text_eq_ok_iff fuel depth).mp htext)
  · intro hread
    obtain ⟨hquote, hnamed, htold, hfound⟩ := hread
    cases hopened.symm.trans hquote
    rw [string_eq_ok_iff.mpr (closes_of_stringBody hnamed)]
    dsimp only
    rw [colon_eq_ok_iff.mpr htold]
    dsimp only
    rw [(text_eq_ok_iff fuel depth).mpr hfound]
    rfl

theorem troubled_members_eq_ok_iff {fuel : Nat} {input rest : Input}
    {entries : List (String × String)} :
    Trouble.members (fuel + 1) input = .ok (entries, rest) ↔
      ∃ quoted entry behind, Read.skipSpace input = .char '"' :: quoted ∧
        Trouble.member quoted = .ok (entry, behind) ∧
        ((∃ tail later, Read.skipSpace behind = .char ',' :: tail ∧
            Trouble.members fuel tail = .ok (later, rest) ∧ entries = entry :: later) ∨
          (Read.skipSpace behind = .char '\x7d' :: rest ∧ entries = [entry])) := by
  constructor
  · intro hread
    unfold Trouble.members at hread
    split at hread
    case h_1 quoted hopened =>
        split at hread
        · cases hread
        · rename_i entry behind hmember
          refine ⟨quoted, entry, behind, hopened, hmember, ?_⟩
          split at hread
          case h_1 tail hcomma =>
              cases hlater : Trouble.members fuel tail with
              | error trouble => simp [hlater, Except.map] at hread
              | ok found =>
                  rw [hlater] at hread
                  cases hread
                  exact .inl ⟨tail, _, hcomma, hlater, rfl⟩
          case h_2 tail hclosed =>
              cases hread
              exact .inr ⟨hclosed, rfl⟩
          all_goals cases hread
    all_goals cases hread
  · rintro ⟨quoted, entry, behind, hopened, hmember,
        ⟨tail, later, hcomma, hlater, rfl⟩ | ⟨hclosed, rfl⟩⟩
    · simp only [Trouble.members, hopened, hmember, hcomma, hlater]
      rfl
    · simp only [Trouble.members, hopened, hmember, hclosed]

/-- The last member takes one unit of fuel less than it takes to read a value of any kind. -/
theorem members_eq_ok_iff {input rest : Input} {entries : List (String × String)}
    (fuel depth : Nat) :
    Trouble.members fuel input = .ok (entries, rest) ↔
      Read.members? (fuel + 1) depth input = some (some (ofTexts entries), rest) := by
  induction fuel generalizing input entries with
  | zero =>
      rw [members?_eq_some_iff]
      constructor
      · intro hread
        cases hread
      · intro hread
        obtain ⟨_, _, _, ⟨-, -, -, ⟨⟩⟩, -⟩ := hread
  | succ fuel ih =>
      rw [members?_eq_some_iff, troubled_members_eq_ok_iff]
      constructor
      · rintro ⟨quoted, entry, behind, hopened, hmember, hnext⟩
        refine ⟨_, _, behind, (member_eq_ok_iff hopened fuel depth).mp hmember, ?_⟩
        rcases hnext with ⟨tail, later, hcomma, hlater, rfl⟩ | ⟨hclosed, rfl⟩
        · refine .inl ⟨tail, _, hcomma, ih.mp hlater, ?_⟩
          exact (push_eq_ofTexts_iff.mpr ⟨_, _, rfl, rfl, rfl, rfl⟩).symm
        · refine .inr ⟨hclosed, ?_⟩
          exact (push_eq_ofTexts_iff.mpr ⟨_, [], rfl, rfl, rfl, rfl⟩).symm
      · rintro ⟨name, value, behind, hmember, hnext⟩
        obtain ⟨quoted, hopened⟩ := hmember.opened
        rcases hnext with ⟨tail, more, hcomma, hlater, hsame⟩ | ⟨hclosed, hsame⟩
        · obtain ⟨entry, later, rfl, rfl, rfl, rfl⟩ := push_eq_ofTexts_iff.mp hsame.symm
          have hfirst := (member_eq_ok_iff hopened fuel depth).mpr hmember
          exact ⟨quoted, entry, behind, hopened, hfirst,
            .inl ⟨tail, later, hcomma, ih.mpr hlater, rfl⟩⟩
        · obtain ⟨entry, later, rfl, rfl, rfl, hnone⟩ := push_eq_ofTexts_iff.mp hsame.symm
          cases List.map_eq_nil_iff.mp (Option.some.inj hnone).symm
          have hlast := (member_eq_ok_iff hopened fuel depth).mpr hmember
          exact ⟨quoted, entry, behind, hopened, hlast, .inr ⟨hclosed, rfl⟩⟩

theorem object_eq_ok_iff {input rest : Input} {entries : List (String × String)}
    (fuel depth : Nat) :
    Trouble.object fuel input = .ok (entries, rest) ↔
      (Read.skipSpace input = .char '\x7d' :: rest ∧ entries = []) ∨
        Read.members? (fuel + 1) depth input = some (some (ofTexts entries), rest) := by
  unfold Trouble.object
  constructor
  · intro hread
    split at hread
    case h_1 behind hclosed =>
        cases hread
        exact .inl ⟨hclosed, rfl⟩
    case h_2 => cases hread
    case h_3 =>
        rw [members_eq_ok_iff fuel depth, members?_skipSpace] at hread
        exact .inr hread
  · rintro (⟨hclosed, rfl⟩ | hmembers)
    · simp only [hclosed]
    · obtain ⟨_, _, _, hmember, -⟩ := members?_eq_some_iff.mp hmembers
      obtain ⟨quoted, hquote⟩ := hmember.opened
      rw [← members?_skipSpace, ← members_eq_ok_iff] at hmembers
      rw [hquote] at hmembers ⊢
      exact hmembers

theorem troubled_document_eq_ok_iff {input : Input} {entries : List (String × String)} :
    Trouble.document input = .ok entries ↔
      ∃ tail rest, Read.skipSpace input = .char '\x7b' :: tail ∧
        Trouble.object (2 * input.length) tail = .ok (entries, rest) ∧
        Read.skipSpace rest = [] := by
  constructor
  · intro hread
    unfold Trouble.document at hread
    split at hread
    · cases hread
    · rename_i tail hopened
      split at hread
      · cases hread
      · rename_i found rest hobject
        split at hread
        case h_1 hended =>
            cases hread
            exact ⟨tail, rest, hopened, hobject, hended⟩
        case h_2 => cases hread
    · cases hread
  · rintro ⟨tail, rest, hopened, hobject, hended⟩
    simp only [Trouble.document, hopened, hobject, hended]

theorem document_eq_ok_iff {input : Input} {entries : List (String × String)} :
    Trouble.document input = .ok entries ↔
      Read.document? depthLimit input = some (.object (ofTexts entries)) := by
  rw [troubled_document_eq_ok_iff, document?_eq_some_iff]
  constructor
  · rintro ⟨tail, rest, hopened, hobject, hended⟩
    have hinner := (object_eq_ok_iff _ (depthLimit - 1)).mp hobject
    exact ⟨rest, (value?_object_iff (by decide)).mpr ⟨tail, hopened, hinner⟩, hended⟩
  · rintro ⟨rest, hvalue, hended⟩
    obtain ⟨tail, hopened, hinner⟩ := (value?_object_iff (by decide)).mp hvalue
    exact ⟨tail, rest, hopened, (object_eq_ok_iff _ (depthLimit - 1)).mpr hinner, hended⟩

/-- Both readers find the same objects of texts. -/
theorem texts_eq_ok_iff {data : Bytes} {entries : List (String × String)} :
    texts data = .ok entries ↔ read? data = some (.object (ofTexts entries)) := by
  rw [read?, ← document_eq_ok_iff, texts]
  cases Trouble.document (Text.glyphs data) with
  | error trouble => simp
  | ok found => simp

/-! Writing -/

theorem fourHex_code {c : Char} (hsmall : c.toNat < 0x10000) :
    ∃ digits, Write.unitEscape c = '\\' :: 'u' :: digits ∧ FourHex digits c.toNat := by
  have hdigit (value : Nat) := Text.hexValue?_lowerHexDigit
    (Nat.mod_lt value (show 0 < 16 by decide))
  have hvalue : c.toNat / 4096 % 16 * 4096 + c.toNat / 256 % 16 * 256 + c.toNat / 16 % 16 * 16 +
      c.toNat % 16 = c.toNat := by omega
  have hfour := FourHex.mk (hdigit (c.toNat / 4096)) (hdigit (c.toNat / 256))
    (hdigit (c.toNat / 16)) (hdigit c.toNat)
  rw [hvalue] at hfour
  exact ⟨_, rfl, hfour⟩

theorem spells_escape (c : Char) : Spells (Write.escape (fun _ => false) c) c := by
  by_cases hshort : c ∈ ['"', '\\', '\n', '\r', '\t', '\x08', '\x0c']
  · simp only [List.mem_cons, List.not_mem_nil, or_false] at hshort
    rcases hshort with rfl | rfl | rfl | rfl | rfl | rfl | rfl <;> exact .escape (by decide)
  · simp only [List.mem_cons, List.not_mem_nil, or_false, not_or] at hshort
    obtain ⟨hquote, hbackslash, hnewline, hcarriage, htab, hbackspace, hfeed⟩ := hshort
    rw [Write.escape, if_neg hquote, if_neg hbackslash, if_neg hnewline, if_neg hcarriage,
      if_neg htab, if_neg hbackspace, if_neg hfeed, Bool.or_false]
    split
    · rename_i hcontrol
      obtain ⟨digits, hsame, hfour⟩ :=
        fourHex_code (Nat.lt_trans (of_decide_eq_true hcontrol) (by decide))
      rw [hsame]
      exact .unit hfour
    · rename_i hshown
      exact .plain (Nat.le_of_not_lt (mt decide_eq_true hshown)) hquote hbackslash

theorem spelled_escapes (text : List Char) :
    Spelled (text.flatMap (Write.escape fun _ => false)) text := by
  induction text with
  | nil => exact .nil
  | cons c rest ih => exact .cons (spells_escape c) ih

theorem quotes_stringChars (text : String) :
    Quotes (Write.stringChars (fun _ => false) text) text :=
  ⟨_, rfl, spelled_escapes text.toList⟩

theorem member_chars (entry : String × String) :
    Member (Write.stringChars (fun _ => false) entry.1 ++
      ':' :: Write.stringChars (fun _ => false) entry.2) entry := by
  have hblank : Blank ([] ++ [] ++ [] ++ []) := by rintro c ⟨⟩
  simpa using Member.mk hblank (quotes_stringChars entry.1) (quotes_stringChars entry.2)

theorem members_membersChars (entry : String × String) (later : List (String × String)) :
    ∃ inside, Members inside (entry :: later) ∧
      Write.membersChars (fun _ => false) (ofTexts (entry :: later)) = inside ++ ['\x7d'] := by
  induction later generalizing entry with
  | nil =>
      refine ⟨_, .last (member_chars entry), ?_⟩
      simp [ofTexts, Write.membersChars, Write.valueChars]
  | cons next later ih =>
      obtain ⟨inside, hmembers, hsame⟩ := ih next
      refine ⟨_, .more (member_chars entry) hmembers, ?_⟩
      have hfirst : Write.membersChars (fun _ => false) (ofTexts (entry :: next :: later)) =
          Write.stringChars (fun _ => false) entry.1 ++ ':' ::
            (Write.stringChars (fun _ => false) entry.2 ++ ',' ::
              Write.membersChars (fun _ => false) (ofTexts (next :: later))) := by
        simp [ofTexts, Write.membersChars, Write.valueChars]
      rw [hfirst, hsame]
      simp

theorem written_write (map : Dictionary String) :
    Written (Text.encode (write (ofDictionary .string map))) map.entries := by
  have hchars : (write (ofDictionary .string map)).toList =
      '\x7b' :: Write.membersChars (fun _ => false) (ofTexts map.entries) := by
    rw [write, writeWith, String.toList_ofList]
    rfl
  refine ⟨_, ?_, congrArg Text.encodeChars hchars⟩
  have hblank : Blank ([] ++ [] ++ []) := by rintro c ⟨⟩
  cases map.entries with
  | nil => exact .empty hblank
  | cons entry later =>
      obtain ⟨inside, hmembers, hsame⟩ := members_membersChars entry later
      rw [hsame]
      exact @Object.full [] inside [] _ hblank hmembers

end BucketKeys.Json
