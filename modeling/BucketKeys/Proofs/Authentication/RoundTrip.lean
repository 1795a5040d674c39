import BucketKeys.Proofs.Authentication.Sources
import BucketKeys.Proofs.Json.Lossless
import BucketKeys.Proofs.Json.Objects

/-!
Credentials and their text. What is kept of credentials is what counts in their text, and it is read
again from any text that is written of it.
-/

namespace BucketKeys.Authentication

variable {data : Bytes} {map : Dictionary String}

/-- The bytes are a text of the map, in which the last of repeated names counts. -/
def Encodes (data : Bytes) (map : Dictionary String) : Prop :=
  ∃ texts, Json.Written data texts ∧ ∀ name text, map.get? name = some text ↔ Last texts name text

theorem lists_iff_written {texts : List (String × String)} :
    Lists data texts ↔ Json.Written data texts :=
  Json.read?_eq_ofTexts_iff

theorem encodes_iff : Encodes data map ↔ texts? data = some map := by
  rw [texts?_eq_some_iff]
  constructor
  · rintro ⟨texts, hwritten, hlast⟩
    refine ⟨texts, lists_iff_written.mpr hwritten, Dictionary.ext_get? fun name => ?_⟩
    exact Option.ext fun text => get?_ofList_eq_some_iff.trans (hlast name text).symm
  · rintro ⟨texts, hlists, rfl⟩
    exact ⟨texts, lists_iff_written.mp hlists, fun name text => get?_ofList_eq_some_iff⟩

theorem encodes_write (map : Dictionary String) :
    Encodes (Text.encode (Json.write (Json.ofDictionary .string map))) map := by
  refine ⟨map.entries, Json.written_write map, fun name text => ?_⟩
  rw [← get?_ofList_eq_some_iff, Dictionary.ofList_entries]

theorem read_eq_ok_iff {login : Login} :
    Login.read data = .ok login ↔ ∃ map, Encodes data map ∧ Login.ofTexts map = login := by
  simp only [encodes_iff]
  cases hknown : texts? data with
  | none =>
      obtain ⟨message, -, hread⟩ := read_of_textless hknown
      simp [hread]
  | some map => simp [read_of_texts? hknown]

namespace Login

def keys : List String := ["api_token", "email", "api_key"]

theorem get?_configuration (login : Login) (key : String) :
    login.configuration.get? key =
      if key = "api_token" then login.apiToken
      else if key = "email" then login.email
      else if key = "api_key" then login.apiKey
      else none := by
  have hnothing (name : String) : Dictionary.get? name (∅ : Dictionary String) = none := rfl
  unfold configuration
  cases login.apiToken <;> cases login.email <;> cases login.apiKey <;>
    grind [Dictionary.get?_insert, apiTokenKey, emailKey, apiKeyKey]

theorem get?_configuration_ofTexts (map : Dictionary String) (key : String) :
    (ofTexts map).configuration.get? key =
      if key ∈ keys then (map.get? key).filter (!·.isEmpty) else none := by
  simp only [get?_configuration, keys, List.mem_cons, List.not_mem_nil, or_false]
  by_cases htoken : key = "api_token"
  · subst htoken
    rfl
  by_cases hemail : key = "email"
  · subst hemail
    rfl
  by_cases hapiKey : key = "api_key"
  · subst hapiKey
    rfl
  simp [htoken, hemail, hapiKey]

theorem filter_nonempty_iff {text : Option String} {value : String} :
    text.filter (!·.isEmpty) = some value ↔ text = some value ∧ value ≠ "" := by
  simp [Option.filter_eq_some_iff]

/-- An empty text counts as missing before it is written and after it. -/
theorem ofTexts_configuration (map : Dictionary String) :
    ofTexts (ofTexts map).configuration = ofTexts map := by
  have htwice {key : String} (hknown : key ∈ keys) :
      ((ofTexts map).configuration.get? key).filter (!·.isEmpty) =
        (map.get? key).filter (!·.isEmpty) := by
    rw [get?_configuration_ofTexts, if_pos hknown, Option.filter_filter]
    simp
  have htoken := htwice (show "api_token" ∈ keys by decide)
  have hemail := htwice (show "email" ∈ keys by decide)
  have hapiKey := htwice (show "api_key" ∈ keys by decide)
  rw [ofTexts]
  simp only [apiTokenKey, emailKey, apiKeyKey, htoken, hemail, hapiKey]
  rfl

theorem token_eq_ok_iff {token : String} :
    (ofTexts map).token = .ok token ↔ map.get? "api_token" = some token ∧ token ≠ "" := by
  rw [← filter_nonempty_iff]
  change _ ↔ (ofTexts map).apiToken = some token
  unfold Login.token
  cases (ofTexts map).apiToken <;> simp

theorem token_eq_error_iff :
    (ofTexts map).token = .error .noUsableCredential ↔
      ∀ token, map.get? "api_token" = some token → token = "" := by
  constructor
  · intro hfails token hfound
    refine Decidable.byContradiction fun hnonempty => ?_
    cases hfails.symm.trans (token_eq_ok_iff.mpr ⟨hfound, hnonempty⟩)
  · exact token_ofTexts_of_none

end Login

/-- Credentials are read from every text of a map. They keep the texts under the keys that count,
unless they are empty, and what they keep is read as the same credentials again. No other bytes are
read. -/
theorem credentials_round_trip :
    (∀ data map, Encodes data map → ∃ login, Login.read data = .ok login ∧
      (∀ key value, login.configuration.get? key = some value ↔
        key ∈ Login.keys ∧ map.get? key = some value ∧ value ≠ "") ∧
      (∀ token, login.token = .ok token ↔ map.get? "api_token" = some token ∧ token ≠ "") ∧
      (login.token = .error .noUsableCredential ↔
        ∀ token, map.get? "api_token" = some token → token = "")) ∧
    (∀ data login, Login.read data = .ok login →
      Login.read (Text.encode (Json.write (Json.ofDictionary .string login.configuration))) =
        .ok login ∧
      ∀ again, Encodes again login.configuration → Login.read again = .ok login) ∧
    ∀ data, (∀ texts, ¬ Json.Written data texts) → ∃ message, Json.texts data = .error message ∧
      Login.read data = .error (.credentialExtractionFailed
        ("cannot unmarshal cloudflare credentials as JSON: " ++ message)) := by
  refine ⟨?_, ?_, ?_⟩
  · intro data map hencodes
    refine ⟨_, read_eq_ok_iff.mpr ⟨map, hencodes, rfl⟩, fun key value => ?_,
      fun token => Login.token_eq_ok_iff, Login.token_eq_error_iff⟩
    rw [Login.get?_configuration_ofTexts]
    split
    · rename_i known
      simp only [known, true_and, Login.filter_nonempty_iff]
    · rename_i unknown
      simp [unknown]
  · intro data login hread
    obtain ⟨map, -, rfl⟩ := read_eq_ok_iff.mp hread
    have hrereads (again : Bytes) (hencodes : Encodes again (Login.ofTexts map).configuration) :
        Login.read again = .ok (Login.ofTexts map) :=
      read_eq_ok_iff.mpr ⟨_, hencodes, Login.ofTexts_configuration map⟩
    exact ⟨hrereads _ (encodes_write _), hrereads⟩
  · intro data htextless
    refine read_of_textless (texts?_of_textless fun texts hlists => ?_)
    exact htextless texts (lists_iff_written.mp hlists)

def escapedLogin : Bytes :=
  Text.encode ("\x7b \"other\":\"\\t\", \"api\\u005ftoken\" :\"old\",\n\"email\":\"\"," ++
    "\"api_token\":\"\\uD83D\\uDE00\" \x7d")

theorem credentials_round_trip_escaped :
    ∃ login, Login.read escapedLogin = .ok login ∧ login.token = .ok "😀" ∧
      login.configuration.get? "email" = none ∧
      Login.read (Text.encode (Json.write (Json.ofDictionary .string login.configuration))) =
        .ok login ∧
      Login.read [0x22] = .error (.credentialExtractionFailed
        ("cannot unmarshal cloudflare credentials as JSON: " ++
          "EOF while parsing a string at line 1 column 1")) := by
  obtain ⟨hreads, hrereads, fails⟩ := credentials_round_trip
  have hknown : texts? escapedLogin =
      some (.ofList [("api_token", "😀"), ("email", ""), ("other", "\t")]) := by decide +kernel
  obtain ⟨login, hread, hkept, htoken, -⟩ := hreads _ _ (encodes_iff.mpr hknown)
  have htextless (texts : List (String × String)) : ¬ Json.Written [0x22] texts := by
    intro hwritten
    have hread := texts?_eq_some_iff.mpr ⟨texts, lists_iff_written.mpr hwritten, rfl⟩
    have hunread : texts? [0x22] = none := by decide +kernel
    cases hread.symm.trans hunread
  have hemptied : login.configuration.get? "email" = none := by
    refine Option.eq_none_iff_forall_ne_some.mpr fun value hfound => ?_
    obtain ⟨-, hpresent, hnonempty⟩ := (hkept _ _).mp hfound
    exact hnonempty (Option.some.inj (hpresent.symm.trans (by decide +kernel)))
  obtain ⟨message, htold, hfails⟩ := fails _ htextless
  have hopen : Json.texts [0x22] = .error "EOF while parsing a string at line 1 column 1" := by
    with_unfolding_all rfl
  cases htold.symm.trans hopen
  exact ⟨login, hread, (htoken _).mpr (by decide +kernel), hemptied, (hrereads _ _ hread).1, hfails⟩

end BucketKeys.Authentication
