import BucketKeys.Authentication.Extraction
import BucketKeys.Proofs.Json.Dictionaries
import BucketKeys.Proofs.Json.Objects

/-!
Where credentials are read from, and what is in them: a configuration chooses at most one source, by
the selector of that source alone, and of the texts that are read there only the last token counts.
-/

namespace BucketKeys.Authentication

inductive Source where
  | secret (selector : SecretKeySelector)
  | environment (name : String)
  | filesystem (path : String)

namespace Source

def call : Source → Call
  | secret selector => .secretKey selector
  | environment name => .variable name
  | filesystem path => .file path

def bytes : (source : Source) → Answer source.call → Except Fault Bytes
  | secret _ => fun (answer : Except Fault Bytes) => answer
  | environment name => fun (answer : Except VariableFault String) =>
    match answer with
    | .ok text => .ok (Text.encode text)
    | .error fault => .error (.credentialExtractionFailed
        ("cannot read environment variable " ++ name ++ ": " ++ fault.message))
  | filesystem path => fun (answer : Except String Bytes) =>
    match answer with
    | .ok data => .ok data
    | .error message =>
      .error (.credentialExtractionFailed ("cannot read file " ++ path ++ ": " ++ message))

theorem call_injective {source other : Source} (hsame : source.call = other.call) :
    source = other := by
  cases source <;> cases other <;> cases hsame <;> rfl

end Source

def selected? (credentials : ProviderCredentials) : Option Source :=
  match credentials.source with
  | .none => none
  | .secret => credentials.secretRef.map .secret
  | .environment => credentials.env.map .environment
  | .filesystem => credentials.fs.map .filesystem

def nothingSelected : CredentialSource → String
  | .none => "credentials source None does not provide credentials"
  | .secret => "cannot extract from secret key when none specified"
  | .environment => "cannot extract from environment variable when none specified"
  | .filesystem => "cannot extract from filesystem when no path specified"

def choice (credentials : ProviderCredentials) : Except Fault Source :=
  match selected? credentials with
  | some source => .ok source
  | none => .error (.credentialExtractionFailed (nothingSelected credentials.source))

def extractFrom : Except Fault Source → Work interface σ Bytes
  | .ok source => ask source.call >>= fun answer => Work.ofExcept (source.bytes answer)
  | .error fault => Work.fail fault

theorem extract_eq (credentials : ProviderCredentials) :
    (extract credentials : Work interface σ Bytes) = extractFrom (choice credentials) := by
  unfold extract choice selected?
  cases credentials.source with
  | none => rfl
  | secret => cases credentials.secretRef <;> rfl
  | environment =>
      cases credentials.env with
      | none => rfl
      | some name =>
          refine congrArg (ask _ >>= ·) (funext fun answer => ?_)
          cases (answer : Except VariableFault String) <;> rfl
  | filesystem =>
      cases credentials.fs with
      | none => rfl
      | some path =>
          refine congrArg (ask _ >>= ·) (funext fun answer => ?_)
          cases (answer : Except String Bytes) <;> rfl

/-- The same source with the same selector of its own, whatever other selectors there are. -/
structure SameChoice (first second : ProviderCredentials) : Prop where
  source : first.source = second.source
  secret : first.source = .secret → first.secretRef = second.secretRef
  environment : first.source = .environment → first.env = second.env
  filesystem : first.source = .filesystem → first.fs = second.fs

theorem SameChoice.choice_eq {first second : ProviderCredentials}
    (hsame : SameChoice first second) : choice first = choice second := by
  have hselects : selected? first = selected? second := by
    unfold selected?
    rw [← hsame.source]
    cases hnamed : first.source with
    | none => rfl
    | secret => exact congrArg (Option.map _) (hsame.secret hnamed)
    | environment => exact congrArg (Option.map _) (hsame.environment hnamed)
    | filesystem => exact congrArg (Option.map _) (hsame.filesystem hnamed)
  rw [choice, choice, hselects, hsame.source]

/-- The bytes are a JSON object of these texts, in the order in which they are written. -/
def Lists (data : Bytes) (texts : List (String × String)) : Prop :=
  Json.read? data = some (.object (texts.map fun entry => (entry.1, .string entry.2)))

/-- The text is the last under its name. -/
def Last (texts : List (String × String)) (name text : String) : Prop :=
  ∃ before after, texts = before ++ (name, text) :: after ∧ ∀ entry ∈ after, entry.1 ≠ name

/-- The token that the bytes offer, or the fault that is found with them. -/
inductive Offers (data : Bytes) : Except Fault String → Prop
  | token {texts : List (String × String)} {token : String} (lists : Lists data texts)
      (last : Last texts "api_token" token) (nonempty : token ≠ "") : Offers data (.ok token)
  | unreadable {message : String} (textless : ∀ texts, ¬ Lists data texts)
      (htold : Json.texts data = .error message) :
      Offers data (.error (.credentialExtractionFailed
        ("cannot unmarshal cloudflare credentials as JSON: " ++ message)))
  | tokenless {texts : List (String × String)} (lists : Lists data texts)
      (empty : ∀ token, Last texts "api_token" token → token = "") :
      Offers data (.error .noUsableCredential)

def texts? (data : Bytes) : Option (Dictionary String) :=
  (Json.read? data).bind (Json.Decode.dictionary Json.Decode.string)

variable {data : Bytes} {texts : List (String × String)}

theorem get?_ofList_eq_some_iff {name text : String} :
    (Dictionary.ofList texts).get? name = some text ↔ Last texts name text := by
  rw [Dictionary.get?_ofList, List.getLast?_map, ← List.head?_reverse, ← List.filter_reverse,
    List.head?_filter, Option.map_eq_some_iff]
  constructor
  · rintro ⟨⟨_, _⟩, hfound, rfl⟩
    obtain ⟨hnamed, after, before, hsplit, hothers⟩ := List.find?_eq_some_iff_append.mp hfound
    cases eq_of_beq hnamed
    refine ⟨before.reverse, after.reverse, ?_, ?_⟩
    · simpa using congrArg List.reverse hsplit
    · simpa using hothers
  · rintro ⟨before, after, rfl, hothers⟩
    refine ⟨(name, text), List.find?_eq_some_iff_append.mpr ⟨beq_self_eq_true name, ?_⟩, rfl⟩
    refine ⟨after.reverse, before.reverse, by simp, ?_⟩
    simpa using hothers

theorem mapM_string_iff {members : List (String × Json)} :
    (members.mapM fun member => (Json.Decode.string member.2).map ((member.1, ·))) = some texts ↔
      members = texts.map fun entry => (entry.1, .string entry.2) := by
  induction members generalizing texts with
  | nil => cases texts <;> simp
  | cons first rest ih =>
      obtain ⟨name, value⟩ := first
      simp only [List.mapM_cons, Option.bind_eq_bind, Option.bind_eq_some_iff, ih,
        Option.pure_def, Option.some.injEq, Option.map_eq_some_iff]
      constructor
      · rintro ⟨_, ⟨text, hread, rfl⟩, _, rfl, rfl⟩
        cases value <;> cases hread
        rfl
      · intro hsame
        cases texts with
        | nil => cases hsame
        | cons entry texts =>
            cases hsame
            exact ⟨_, ⟨_, rfl, rfl⟩, _, rfl, rfl⟩

theorem texts?_eq_some_iff {map : Dictionary String} :
    texts? data = some map ↔ ∃ texts, Lists data texts ∧ .ofList texts = map := by
  rw [texts?, Option.bind_eq_some_iff]
  constructor
  · rintro ⟨json, hread, hdecoded⟩
    cases json with
    | object members =>
        obtain ⟨texts, hall, rfl⟩ := Option.map_eq_some_iff.mp hdecoded
        cases mapM_string_iff.mp hall
        exact ⟨texts, hread, rfl⟩
    | _ => cases hdecoded
  · rintro ⟨texts, hlists, rfl⟩
    exact ⟨_, hlists, Option.map_eq_some_iff.mpr ⟨texts, mapM_string_iff.mpr rfl, rfl⟩⟩

theorem read_of_texts? {map : Dictionary String} (hknown : texts? data = some map) :
    Login.read data = .ok (Login.ofTexts map) := by
  obtain ⟨texts, hlists, rfl⟩ := texts?_eq_some_iff.mp hknown
  rw [Login.read, Json.texts_eq_ok_iff.mpr hlists]

theorem read_of_textless (hunknown : texts? data = none) :
    ∃ message, Json.texts data = .error message ∧
      Login.read data = .error (Login.unreadable message) := by
  unfold Login.read
  cases hread : Json.texts data with
  | ok texts =>
      have hknown := texts?_eq_some_iff.mpr ⟨texts, Json.texts_eq_ok_iff.mp hread, rfl⟩
      cases hunknown.symm.trans hknown
  | error message => exact ⟨message, rfl, rfl⟩

theorem token_ofTexts_of_some {map : Dictionary String} {token : String}
    (hfound : map.get? "api_token" = some token) (hnonempty : token ≠ "") :
    (Login.ofTexts map).token = .ok token := by
  have hkept : (map.get? "api_token").filter (!·.isEmpty) = some token := by
    simp [hfound, hnonempty]
  rw [Login.token, show (Login.ofTexts map).apiToken = some token from hkept]

theorem token_ofTexts_of_none {map : Dictionary String}
    (hempty : ∀ token, map.get? "api_token" = some token → token = "") :
    (Login.ofTexts map).token = .error .noUsableCredential := by
  have hdropped : (map.get? "api_token").filter (!·.isEmpty) = none := by
    rw [Option.filter_eq_none_iff]
    intro token hfound
    simp [hempty token hfound]
  rw [Login.token, show (Login.ofTexts map).apiToken = none from hdropped]

theorem texts?_of_textless (htextless : ∀ texts, ¬ Lists data texts) : texts? data = none := by
  cases hknown : texts? data with
  | none => rfl
  | some map =>
      obtain ⟨texts, hlists, -⟩ := texts?_eq_some_iff.mp hknown
      exact absurd hlists (htextless texts)

theorem Offers.eq {offer : Except Fault String} (hoffers : Offers data offer) :
    (Login.read data).bind Login.token = offer := by
  cases hoffers with
  | token hlists hlast hnonempty =>
      rw [read_of_texts? (texts?_eq_some_iff.mpr ⟨_, hlists, rfl⟩)]
      exact token_ofTexts_of_some (get?_ofList_eq_some_iff.mpr hlast) hnonempty
  | unreadable htextless htold =>
      obtain ⟨message, hsaid, hread⟩ := read_of_textless (texts?_of_textless htextless)
      cases htold.symm.trans hsaid
      rw [hread]
      rfl
  | tokenless hlists hempty =>
      rw [read_of_texts? (texts?_eq_some_iff.mpr ⟨_, hlists, rfl⟩)]
      exact token_ofTexts_of_none fun token hfound => hempty token
          (get?_ofList_eq_some_iff.mp hfound)

theorem exists_offers (data : Bytes) : ∃ offer, Offers data offer := by
  by_cases hlisted : ∃ texts, Lists data texts
  · obtain ⟨texts, hlists⟩ := hlisted
    by_cases hheld : ∃ token, Last texts "api_token" token ∧ token ≠ ""
    · obtain ⟨token, hlast, hnonempty⟩ := hheld
      exact ⟨_, .token hlists hlast hnonempty⟩
    · refine ⟨_, .tokenless hlists fun token hlast => ?_⟩
      exact Decidable.byContradiction fun hnonempty => hheld ⟨token, hlast, hnonempty⟩
  · have htextless (texts : List (String × String)) : ¬ Lists data texts :=
      fun hlists => hlisted ⟨texts, hlists⟩
    obtain ⟨message, htold, -⟩ := read_of_textless (texts?_of_textless htextless)
    exact ⟨_, .unreadable htextless htold⟩

theorem offers_iff {offer : Except Fault String} :
    Offers data offer ↔ (Login.read data).bind Login.token = offer := by
  refine ⟨Offers.eq, ?_⟩
  rintro rfl
  obtain ⟨offer, hoffers⟩ := exists_offers data
  rw [hoffers.eq]
  exact hoffers

end BucketKeys.Authentication
