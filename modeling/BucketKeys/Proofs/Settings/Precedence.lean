import BucketKeys.Proofs.Issuance.Rehearsal
import BucketKeys.Proofs.Service.Waits
import BucketKeys.Proofs.Settings.Interval
import BucketKeys.Proofs.Text.Utf8
import BucketKeys.Settings.Basic

/-!
What the command line says goes before the environment, and the environment before what is built
in. A time that nobody can read stops the loading, a number that nobody can read does not count, and
whatever is loaded makes the controller wait.
-/

namespace BucketKeys

namespace Environment

variable {environment : Environment} {name text : String}

def Sets (environment : Environment) (name text : String) : Prop :=
  environment.get? name = some (Text.encode text)

theorem text?_eq_some_iff (hproper : isName name = true) :
    environment.text? name = some text ↔ environment.Sets name text := by
  simp only [text?, read, hproper, if_true, Sets]
  cases environment.get? name with
  | none => simp [Except.toOption]
  | some value =>
      rw [Option.some.injEq, ← Text.decode?_eq_some_iff]
      cases hdecoded : Text.decode? value <;> simp [hdecoded, Except.toOption]

theorem text?_eq_none_iff (hproper : isName name = true) :
    environment.text? name = none ↔ ∀ text, ¬ environment.Sets name text := by
  simp only [← text?_eq_some_iff hproper]
  exact Option.eq_none_iff_forall_ne_some

theorem number?_eq_some_iff (hproper : isName name = true) {bound number : Nat}
    (hpositive : 0 < bound) :
    environment.number? name bound = some number ↔
      ∃ text, environment.Sets name text ∧ Text.Numeral text.toList number ∧ number < bound := by
  simp only [number?, Option.bind_eq_some_iff, text?_eq_some_iff hproper,
    Text.readNat?_eq_some_iff hpositive]

end Environment

namespace Settings

open Time (Span)

variable {environment : Environment} {poll : Option String} {rate : Option UInt16}

def Legible (text : String) : Prop :=
  ∃ seconds, Interval.Means text.toList seconds

/-- The texts that have to be times. -/
inductive Times (environment : Environment) (poll : Option String) (text : String) : Prop where
  | interval (set : environment.Sets "POLL_INTERVAL" text)
  | timeout (set : environment.Sets "RECONCILE_TIMEOUT" text)
  | given (given : poll = some text)

/-- The wait between two passes: of the command line, of the environment, or a minute. -/
inductive Polls (environment : Environment) : Option String → Span → Prop where
  | given {text : String} {seconds : Nat} (means : Interval.Means text.toList seconds) :
      Polls environment (some text) (.ofSeconds seconds)
  | surrounding {text : String} {seconds : Nat} (set : environment.Sets "POLL_INTERVAL" text)
      (means : Interval.Means text.toList seconds) :
      Polls environment none (.ofSeconds seconds)
  | standard (unset : ∀ text, ¬ environment.Sets "POLL_INTERVAL" text) :
      Polls environment none (.ofSeconds 60)

/-- The passes in a second: of the command line, of the environment, or ten, but one at least. -/
inductive Admits (environment : Environment) : Option UInt16 → Nat → Prop where
  | given (rate : UInt16) : Admits environment (some rate) (max rate.toNat 1)
  | surrounding {text : String} {rate : Nat} (set : environment.Sets "MAX_RECONCILE_RATE" text)
      (numeral : Text.Numeral text.toList rate) (small : rate < 2 ^ 16) :
      Admits environment none (max rate 1)
  | standard (unread : ∀ text, environment.Sets "MAX_RECONCILE_RATE" text →
      ∀ rate < 2 ^ 16, ¬ Text.Numeral text.toList rate) :
      Admits environment none 10

theorem Polls.positive {span : Span} (hpolls : Polls environment poll span) : .zero < span := by
  cases hpolls with
  | given hmeans => exact Span.zero_lt_ofSeconds hmeans.bounds.1
  | surrounding hset hmeans => exact Span.zero_lt_ofSeconds hmeans.bounds.1
  | standard hunset => exact Span.zero_lt_ofSeconds (by decide)

theorem Admits.bounds {number : Nat} (hadmits : Admits environment rate number) :
    1 ≤ number ∧ number < 2 ^ 16 := by
  cases hadmits with
  | given rate =>
      have hsmall := rate.toNat_lt
      omega
  | surrounding hset hnumeral hsmall => omega
  | standard hunread => decide

theorem withPollInterval_cases (text : String) (settings : Settings) :
    (∃ seconds, Interval.Means text.toList seconds ∧ settings.withPollInterval text =
      .ok { settings with pollInterval := .ofSeconds seconds }) ∨
    (¬ Legible text ∧ ∃ fault, settings.withPollInterval text = .error fault) := by
  unfold withPollInterval
  cases hread : Interval.read text with
  | ok span =>
      obtain ⟨seconds, hmeans, rfl⟩ := Interval.read_eq_ok_iff.mp hread
      exact .inl ⟨seconds, hmeans, rfl⟩
  | error fault =>
      exact .inr ⟨not_exists.mpr (Interval.read_eq_error_iff.mp ⟨fault, hread⟩), _, rfl⟩

theorem withTimeout_cases (text : Option String) (settings : Settings) :
    ((∀ known, text = some known → Legible known) ∧ ∃ span, settings.withTimeout text =
      .ok { settings with reconcileTimeout := span }) ∨
    ∃ known, text = some known ∧ ¬ Legible known ∧
      ∃ fault, settings.withTimeout text = .error fault := by
  unfold withTimeout
  cases text with
  | none => exact .inl ⟨by rintro _ ⟨⟩, _, rfl⟩
  | some text =>
      cases hread : Interval.read text with
      | ok span =>
          obtain ⟨seconds, hmeans, -⟩ := Interval.read_eq_ok_iff.mp hread
          refine .inl ⟨?_, span, by simp only [hread]⟩
          rintro _ ⟨⟩
          exact ⟨seconds, hmeans⟩
      | error fault =>
          have hillegible := not_exists.mpr (Interval.read_eq_error_iff.mp ⟨fault, hread⟩)
          exact .inr ⟨text, rfl, hillegible, .reconcileTimeout fault, by simp only [hread]⟩

@[simp] theorem pollInterval_withBaseUrl (text : Option String) (settings : Settings) :
    (settings.withBaseUrl text).pollInterval = settings.pollInterval := by
  unfold withBaseUrl
  dsimp only
  split <;> rfl

@[simp] theorem maxReconcileRate_withBaseUrl (text : Option String) (settings : Settings) :
    (settings.withBaseUrl text).maxReconcileRate = settings.maxReconcileRate := by
  unfold withBaseUrl
  dsimp only
  split <;> rfl

theorem admits_number (environment : Environment) :
    Admits environment none
      (max ((environment.number? "MAX_RECONCILE_RATE" UInt16.size).getD defaultRate) 1) := by
  have hproper : Environment.isName "MAX_RECONCILE_RATE" = true := by decide
  have hpositive : 0 < UInt16.size := by decide
  cases hknown : environment.number? "MAX_RECONCILE_RATE" UInt16.size with
  | some number =>
      obtain ⟨text, hset, hnumeral, hsmall⟩ :=
          (Environment.number?_eq_some_iff hproper hpositive).mp hknown
      exact .surrounding hset hnumeral hsmall
  | none =>
      refine .standard fun text hset rate hsmall hnumeral => ?_
      have hread :=
          (Environment.number?_eq_some_iff hproper hpositive).mpr ⟨text, hset, hnumeral, hsmall⟩
      cases hknown.symm.trans hread

theorem defaultPollText_read : Interval.read defaultPollText = .ok (.ofSeconds 60) := by
  decide +kernel

theorem standard_polls (environment : Environment) (settings : Settings) :
    (∃ span, Polls environment none span ∧
      (∀ text, environment.Sets "POLL_INTERVAL" text → Legible text) ∧
      settings.withPollInterval ((environment.text? "POLL_INTERVAL").getD defaultPollText) =
        .ok { settings with pollInterval := span }) ∨
    ∃ text, environment.Sets "POLL_INTERVAL" text ∧ ¬ Legible text ∧ ∃ fault,
      settings.withPollInterval ((environment.text? "POLL_INTERVAL").getD defaultPollText) =
        .error fault := by
  have hproper : Environment.isName "POLL_INTERVAL" = true := by decide
  cases hknown : environment.text? "POLL_INTERVAL" with
  | none =>
      have hunset := (Environment.text?_eq_none_iff hproper).mp hknown
      refine .inl ⟨.ofSeconds 60, .standard hunset, fun text hset => absurd hset (hunset text), ?_⟩
      simp only [Option.getD_none, withPollInterval, defaultPollText_read]
  | some text =>
      have hset := (Environment.text?_eq_some_iff hproper).mp hknown
      rcases withPollInterval_cases text settings with
          ⟨seconds, hmeans, hloaded⟩ | ⟨hillegible, hfails⟩
      · refine .inl ⟨_, .surrounding hset hmeans, fun other halso => ?_, hloaded⟩
        have hsame := hknown.symm.trans ((Environment.text?_eq_some_iff hproper).mpr halso)
        cases hsame
        exact ⟨seconds, hmeans⟩
      · exact .inr ⟨text, hset, hillegible, hfails⟩

theorem ofEnvironment_cases (environment : Environment) :
    ((∀ text, Times environment none text → Legible text) ∧
      ∃ settings, ofEnvironment environment = .ok settings ∧
        Polls environment none settings.pollInterval ∧
        Admits environment none settings.maxReconcileRate) ∨
    ∃ text, Times environment none text ∧ ¬ Legible text ∧
      ∃ fault, ofEnvironment environment = .error fault := by
  have hproper : Environment.isName "RECONCILE_TIMEOUT" = true := by decide
  unfold ofEnvironment
  rcases standard_polls environment standard with
    ⟨span, hpolls, hlegible, hloaded⟩ | ⟨text, hset, hillegible, fault, hfails⟩
  · simp only [hloaded, bind, Except.bind]
    rcases withTimeout_cases (environment.text? "RECONCILE_TIMEOUT")
        { standard with pollInterval := span } with
      ⟨known, limit, hlimited⟩ | ⟨text, given, hillegible, fault, hfails⟩
    · simp only [hlimited]
      refine .inl ⟨?_, _, rfl, ?_, ?_⟩
      · intro text htimes
        cases htimes with
        | interval hset => exact hlegible text hset
        | timeout hset => exact known text ((Environment.text?_eq_some_iff hproper).mpr hset)
        | given given => cases given
      · simpa [withRate] using hpolls
      · simpa [withRate, standard] using admits_number environment
    · simp only [hfails]
      exact .inr ⟨text, .timeout ((Environment.text?_eq_some_iff hproper).mp given), hillegible,
          fault, rfl⟩
  · simp only [hfails, bind, Except.bind]
    exact .inr ⟨text, .interval hset, hillegible, fault, rfl⟩

theorem Times.mono {text : String} (htimes : Times environment none text) :
    Times environment poll text := by
  cases htimes with
  | interval hset => exact .interval hset
  | timeout hset => exact .timeout hset
  | given given => cases given

theorem withOverrides_some (text : String) (rate : Option Nat) (settings : Settings) :
    settings.withOverrides ⟨some text, rate⟩ =
      settings.withPollInterval text >>= fun loaded => loaded.withOverrides ⟨none, rate⟩ := rfl

theorem withOverrides_none {settings : Settings} (rate : Option UInt16)
    (hpolls : Polls environment poll settings.pollInterval)
    (hadmits : Admits environment none settings.maxReconcileRate) :
    ∃ loaded, settings.withOverrides ⟨none, rate.map UInt16.toNat⟩ = .ok loaded ∧
      Polls environment poll loaded.pollInterval ∧
      Admits environment rate loaded.maxReconcileRate := by
  cases rate with
  | none => exact ⟨_, rfl, hpolls, hadmits⟩
  | some rate => exact ⟨_, rfl, hpolls, .given rate⟩

theorem withOverrides_cases {settings : Settings} (poll : Option String) (rate : Option UInt16)
    (hpolls : Polls environment none settings.pollInterval)
    (hadmits : Admits environment none settings.maxReconcileRate) :
    ((∀ text, poll = some text → Legible text) ∧
      ∃ loaded, settings.withOverrides ⟨poll, rate.map UInt16.toNat⟩ = .ok loaded ∧
        Polls environment poll loaded.pollInterval ∧
        Admits environment rate loaded.maxReconcileRate) ∨
    ∃ text, poll = some text ∧ ¬ Legible text ∧
      ∃ fault, settings.withOverrides ⟨poll, rate.map UInt16.toNat⟩ = .error fault := by
  cases poll with
  | none => exact .inl ⟨by rintro _ ⟨⟩, withOverrides_none rate hpolls hadmits⟩
  | some text =>
      rw [withOverrides_some]
      rcases withPollInterval_cases text settings with
        ⟨seconds, hmeans, loaded⟩ | ⟨hillegible, fault, hfails⟩
      · rw [loaded]
        refine .inl ⟨?_, withOverrides_none rate (.given hmeans) hadmits⟩
        rintro _ ⟨⟩
        exact ⟨seconds, hmeans⟩
      · rw [hfails]
        exact .inr ⟨text, rfl, hillegible, fault, rfl⟩

theorem load_cases (environment : Environment) (poll : Option String) (rate : Option UInt16) :
    ((∀ text, Times environment poll text → Legible text) ∧
      ∃ settings, load environment ⟨poll, rate.map UInt16.toNat⟩ = .ok settings ∧
        Polls environment poll settings.pollInterval ∧
        Admits environment rate settings.maxReconcileRate) ∨
    ∃ text, Times environment poll text ∧ ¬ Legible text ∧
      ∃ fault, load environment ⟨poll, rate.map UInt16.toNat⟩ = .error fault := by
  unfold load
  rcases ofEnvironment_cases environment with
    ⟨hlegible, settings, hloaded, hpolls, hadmits⟩ | ⟨text, htimes, hillegible, fault, hfails⟩
  · simp only [hloaded, bind, Except.bind]
    rcases withOverrides_cases poll rate hpolls hadmits with
      ⟨given, hready⟩ | ⟨text, given, hillegible, hfails⟩
    · refine .inl ⟨fun text htimes => ?_, hready⟩
      cases htimes with
      | interval hset => exact hlegible text (.interval hset)
      | timeout hset => exact hlegible text (.timeout hset)
      | given hsame => exact given text hsame
    · exact .inr ⟨text, .given given, hillegible, hfails⟩
  · simp only [hfails, bind, Except.bind]
    exact .inr ⟨text, htimes.mono, hillegible, fault, rfl⟩

open Issuance Service

/-- Loading fails at texts that should be times and are none, and at nothing else. Otherwise each
setting comes from the first source that has it, and no wait of the controller is empty. -/
theorem settings_loaded (environment : Environment) (poll : Option String)
    (rate : Option UInt16) :
    ((∃ fault, load environment ⟨poll, rate.map UInt16.toNat⟩ = .error fault) ↔
      ∃ text, Times environment poll text ∧ ∀ seconds, ¬ Interval.Means text.toList seconds) ∧
    ∀ settings, load environment ⟨poll, rate.map UInt16.toNat⟩ = .ok settings →
      Polls environment poll settings.pollInterval ∧
      Admits environment rate settings.maxReconcileRate ∧ 1 ≤ settings.maxReconcileRate ∧
      settings.burst = 10 * settings.maxReconcileRate ∧ settings.burst < 2 ^ 32 ∧
      ∀ (R : Interface) (connector : Pass.Connector R) episodes retries,
        Timeline connector (.ofSettings settings) episodes retries →
          ∀ episode ∈ episodes, ∀ wait, episode.wait? = some wait → Time.Span.zero < wait := by
  rcases load_cases environment poll rate with
    ⟨hlegible, loaded, hready, hpolls, hadmits⟩ | ⟨text, htimes, hillegible, fault, hfails⟩
  · refine ⟨⟨?_, ?_⟩, ?_⟩
    · rintro ⟨fault, hfails⟩
      cases hready.symm.trans hfails
    · rintro ⟨text, htimes, hillegible⟩
      exact absurd (hlegible text htimes) (not_exists.mpr hillegible)
    · intro settings hsame
      cases hready.symm.trans hsame
      have hbounds := hadmits.bounds
      refine ⟨hpolls, hadmits, hbounds.1, Nat.mul_comm _ _, ?_, ?_⟩
      · change loaded.maxReconcileRate * 10 < 2 ^ 32
        omega
      · intro R connector episodes retries htimeline episode hmember wait hwaits
        exact htimeline.wait_pos hpolls.positive (Span.zero_lt_ofSeconds (by decide)) hmember hwaits
  · refine ⟨⟨fun _ => ⟨text, htimes, not_exists.mp hillegible⟩, fun _ => ⟨fault, hfails⟩⟩, ?_⟩
    intro settings hsame
    cases hfails.symm.trans hsame

def site : Environment :=
  .ofList [("MAX_RECONCILE_RATE", Text.encode "0"), ("POLL_INTERVAL", Text.encode "5m")]

def tokenHolder : Credentials :=
  applicant.annotate Bookkeeping.externalNameKey "token"

def siteSettings : Settings :=
  { standard with pollInterval := .ofSeconds 300, maxReconcileRate := 1 }

theorem settings_loaded_site :
    ∃ seen failed retries, load site ⟨none, none⟩ = .ok siteSettings ∧
      Timeline Issuance.connector (.ofSettings siteSettings) (failed :: seen) retries ∧
      failed.wait? = some (.ofSeconds 1) ∧ some (.ofSeconds 300) ∈ seen.map Episode.wait? ∧
      siteSettings.burst < 2 ^ 32 ∧ Time.Span.zero < .ofSeconds 1 := by
  have hloaded : load site ⟨none, none⟩ = .ok siteSettings := by decide +kernel
  let options := PassOptions.ofSettings siteSettings
  let answer := obliging (some (tokenNamed "token")) (tokenNamed "token")
  have hpolled :
      (ending 0 answer options tokenHolder).2 = .finished (.requeue (.ofSeconds 300)) := by
    decide +kernel
  have failed : (ending 0 unconfigured options tokenHolder).2 =
      .failed (.authenticationUnavailable .configurationMissing) := by decide +kernel
  have hfirst := reaches_rehearsal 0 answer options tokenHolder
  have hsecond := reaches_rehearsal 0 unconfigured options tokenHolder
  rw [hpolled] at hfirst
  rw [failed] at hsecond
  have htimeline := ((Timeline.start.ends hfirst).ends hsecond).handles List.mem_cons_self
  obtain ⟨-, -, -, -, hburst, hwaits⟩ := (settings_loaded site none none).2 siteSettings hloaded
  have hpositive := hwaits _ _ _ _ htimeline _ List.mem_cons_self (.ofSeconds 1) (by decide +kernel)
  refine ⟨_, _, _, hloaded, htimeline, by decide +kernel, ?_, hburst, hpositive⟩
  exact List.mem_cons_of_mem _ List.mem_cons_self

end Settings

end BucketKeys
