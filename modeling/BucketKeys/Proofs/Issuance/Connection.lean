import BucketKeys.Proofs.Authentication.Sources
import BucketKeys.Proofs.Issuance.Rehearsal
import BucketKeys.Proofs.Script.Determinism

/-!
Connecting to the token service takes one step after another: each waits for all steps before it,
and the first that fails is the last.
-/

namespace BucketKeys.Issuance

open TokenApi

open Authentication (Login Source choice Offers SameChoice)

/-! The steps of a connection -/

abbrev Connection := Script interface Credentials (Except Fault (Pass.Client interface))

abbrev heard (call : Authentication.Call) (answer : Authentication.Answer call) :
    Moment interface :=
  .asked (I := interface) (.authentication call) answer

/-- A step that waits for its answer. -/
inductive Phase where
  | seeking (reference : ProviderConfigReference)
  | recording (reference : ProviderConfigReference) (credentials : ProviderCredentials)
  | reading (source : Source)
  | entering (token : String)

def Phase.call (resource : Credentials) : Phase → Call
  | seeking reference => .authentication (.providerConfig reference.name)
  | recording reference _ => .authentication (.track reference resource.reference)
  | reading source => .authentication source.call
  | entering token => .authenticate token

/-- The phase that a connection has come to, after what it has heard, the last moment first. -/
inductive Comes (resource : Credentials) : Phase → List (Moment interface) → Prop
  | seeking {reference : ProviderConfigReference}
      (refers : resource.spec.providerConfigRef = some reference) (named : reference.name ≠ "") :
      Comes resource (.seeking reference) []
  | recording {reference : ProviderConfigReference} {moments : List (Moment interface)}
      (credentials : ProviderCredentials) (sought : Comes resource (.seeking reference) moments) :
      Comes resource (.recording reference credentials)
        (heard (.providerConfig reference.name) (.ok ⟨credentials⟩) :: moments)
  | reading {reference : ProviderConfigReference} {credentials : ProviderCredentials}
      {source : Source} {moments : List (Moment interface)}
      (recorded : Comes resource (.recording reference credentials) moments)
      (chosen : choice credentials = .ok source) :
      Comes resource (.reading source)
        (heard (.track reference resource.reference) (.ok ()) :: moments)
  | entering {source : Source} {data : Bytes} {token : String} {moments : List (Moment interface)}
      (tracked : Comes resource (.reading source) moments)
      (answer : Authentication.Answer source.call) (gives : source.bytes answer = .ok data)
      (offers : Offers data (.ok token)) :
      Comes resource (.entering token) (heard source.call answer :: moments)

/-- A client has been made of the token. -/
inductive Entered (resource : Credentials) (token : String) : List (Moment interface) → Prop
  | made {moments : List (Moment interface)} (read : Comes resource (.entering token) moments) :
      Entered resource token (.asked (I := interface) (.authenticate token) () :: moments)

inductive Hindered (resource : Credentials) : Fault → List (Moment interface) → Prop
  | unreferenced
      (nameless : ∀ reference, resource.spec.providerConfigRef = some reference →
        reference.name = "") : Hindered resource .configurationMissing []
  | unresolved {reference : ProviderConfigReference} {moments : List (Moment interface)}
      (sought : Comes resource (.seeking reference) moments) (fault : Fault) :
      Hindered resource fault
        (heard (.providerConfig reference.name) (.error fault) :: moments)
  | untracked {reference : ProviderConfigReference} {credentials : ProviderCredentials}
      {moments : List (Moment interface)}
      (recorded : Comes resource (.recording reference credentials) moments) (fault : Fault) :
      Hindered resource
        (.configurationResolutionFailed reference.name
          ("cannot track ProviderConfig usage: " ++ fault.message))
        (heard (.track reference resource.reference) (.error fault) :: moments)
  | unselected {reference : ProviderConfigReference} {credentials : ProviderCredentials}
      {fault : Fault} {moments : List (Moment interface)}
      (recorded : Comes resource (.recording reference credentials) moments)
      (lacking : choice credentials = .error fault) :
      Hindered resource fault (heard (.track reference resource.reference) (.ok ()) :: moments)
  | unread {source : Source} {fault : Fault} {moments : List (Moment interface)}
      (tracked : Comes resource (.reading source) moments)
      (answer : Authentication.Answer source.call) (fails : source.bytes answer = .error fault) :
      Hindered resource fault (heard source.call answer :: moments)
  | unusable {source : Source} {data : Bytes} {fault : Fault} {moments : List (Moment interface)}
      (tracked : Comes resource (.reading source) moments)
      (answer : Authentication.Answer source.call) (gives : source.bytes answer = .ok data)
      (offers : Offers data (.error fault)) :
      Hindered resource fault (heard source.call answer :: moments)

/-! What is left of a connection at each phase -/

variable {resource : Credentials} {phase : Phase} {moments : List (Moment interface)}
  {rest : Option Connection}

/-- Connecting by a login that is still to be found. -/
def connectBy (work : Work Authentication.interface Credentials Login) :
    Step (Pass.Client interface) := do
  let apiToken ← authenticated do
    let login ← work
    Work.ofExcept login.token
  let _ ← ask (.authenticate apiToken)
  return client

def refused (resource : Credentials) (fault : Fault) : Connection :=
  .done resource (.error fault.unauthenticated)

def fromOffer (resource : Credentials) : Except Fault String → Connection
  | .error fault => refused resource fault
  | .ok token =>
    .ask (I := interface) resource (.authenticate token) fun _ => .done resource (.ok client)

def fromBytes (resource : Credentials) : Except Fault Bytes → Connection
  | .error fault => refused resource fault
  | .ok data => fromOffer resource ((Login.read data).bind Login.token)

def fromChoice (resource : Credentials) : Except Fault Source → Connection
  | .error fault => refused resource fault
  | .ok source =>
    .ask (I := interface) resource (.authentication source.call) fun answer =>
      fromBytes resource (source.bytes answer)

def fromTracking (resource : Credentials) (reference : ProviderConfigReference)
    (credentials : ProviderCredentials) : Except Fault Unit → Connection
  | .error fault =>
    refused resource (.configurationResolutionFailed reference.name
      ("cannot track ProviderConfig usage: " ++ fault.message))
  | .ok () => fromChoice resource (choice credentials)

def fromConfig (resource : Credentials) (reference : ProviderConfigReference) :
    Except Fault ProviderConfigSpec → Connection
  | .error fault => refused resource fault
  | .ok config =>
    .ask (I := interface) resource (.authentication (.track reference resource.reference))
      (fromTracking resource reference config.credentials)

theorem connectBy_ofExcept (resource : Credentials) (login : Except Fault Login) :
    connectBy (Work.ofExcept login) resource =
      fromOffer resource (login.bind Login.token) := by
  cases login with
  | error fault => rfl
  | ok login =>
      change Script.bind (authenticated (Work.ofExcept login.token) resource) _ =
        fromOffer resource login.token
      cases login.token with
      | error fault => rfl
      | ok token => rfl

theorem connectBy_extractFrom (resource : Credentials) (choice : Except Fault Source) :
    connectBy (Authentication.extractFrom choice >>= fun data =>
      Work.ofExcept (Login.read data)) resource = fromChoice resource choice := by
  cases choice with
  | error fault => rfl
  | ok source =>
      change Script.ask (I := interface) resource (.authentication source.call) _ = _
      rw [fromChoice]
      congr 1
      funext answer
      change connectBy (Work.ofExcept (source.bytes answer) >>= fun data =>
        Work.ofExcept (Login.read data)) resource = _
      cases source.bytes answer with
      | error fault => rfl
      | ok data => exact connectBy_ofExcept resource (Login.read data)

theorem connect_eq_connectBy (resource : Credentials) :
    connect resource = connectBy (Authentication.resolve resource) resource := rfl

theorem connect_of_named {reference : ProviderConfigReference}
    (hrefers : resource.spec.providerConfigRef = some reference) (hnamed : reference.name ≠ "") :
    connect resource =
      .ask (I := interface) resource (.authentication (.providerConfig reference.name))
        (fromConfig resource reference) := by
  have hkept : resource.spec.providerConfigRef.filter (!·.name.isEmpty) = some reference := by
    simp [hrefers, hnamed]
  rw [connect_eq_connectBy, Authentication.resolve, hkept]
  change Script.ask (I := interface) resource (.authentication _) _ = _
  congr 1
  funext answer
  cases (answer : Except Fault ProviderConfigSpec) with
  | error fault => rfl
  | ok config =>
      change Script.ask (I := interface) resource (.authentication _) _ = _
      rw [fromConfig]
      congr 1
      funext answer
      cases (answer : Except Fault Unit) with
      | error fault => rfl
      | ok answer =>
          cases answer
          rw [fromTracking, ← connectBy_extractFrom, ← Authentication.extract_eq]
          rfl

theorem connect_of_nameless
    (hnameless : ∀ reference, resource.spec.providerConfigRef = some reference →
      reference.name = "") : connect resource = refused resource .configurationMissing := by
  have hdropped : resource.spec.providerConfigRef.filter (!·.name.isEmpty) = none := by
    rw [Option.filter_eq_none_iff]
    intro reference hrefers
    simp [hnameless reference hrefers]
  rw [connect_eq_connectBy, Authentication.resolve, hdropped]
  rfl

/-! The runs of a connection -/

def Phase.resume (resource : Credentials) :
    (phase : Phase) → Answer (phase.call resource) → Connection
  | seeking reference => fromConfig resource reference
  | recording reference credentials => fromTracking resource reference credentials
  | reading source => fun answer => fromBytes resource (source.bytes answer)
  | entering _ => fun _ => .done resource (.ok client)

def Phase.script (resource : Credentials) (phase : Phase) : Connection :=
  .ask (I := interface) resource (phase.call resource) (phase.resume resource)

inductive Standing (resource : Credentials) : List (Moment interface) → Option Connection → Prop
  | pending {phase : Phase} {moments : List (Moment interface)}
      (comes : Comes resource phase moments) :
      Standing resource moments (some (phase.script resource))
  | lost {phase : Phase} {moments : List (Moment interface)}
      (comes : Comes resource phase moments) :
      Standing resource (.lost (I := interface) (phase.call resource) :: moments) none
  | refused {fault : Fault} {moments : List (Moment interface)}
      (hindered : Hindered resource fault moments) :
      Standing resource moments (some (refused resource fault))
  | entered {token : String} {moments : List (Moment interface)}
      (entered : Entered resource token moments) :
      Standing resource moments (some (.done resource (.ok client)))

theorem Standing.begin (resource : Credentials) :
    Standing resource [] (some (connect resource)) := by
  by_cases hnamed : ∃ reference, resource.spec.providerConfigRef = some reference ∧
      reference.name ≠ ""
  · obtain ⟨reference, hrefers, hnamed⟩ := hnamed
    rw [connect_of_named hrefers hnamed]
    exact .pending (.seeking hrefers hnamed)
  · have hnameless (reference : ProviderConfigReference)
        (hrefers : resource.spec.providerConfigRef = some reference) : reference.name = "" :=
      Decidable.byContradiction fun hgiven => hnamed ⟨reference, hrefers, hgiven⟩
    rw [connect_of_nameless hnameless]
    exact .refused (.unreferenced hnameless)

theorem Comes.answered (hcomes : Comes resource phase moments)
    (answer : Answer (phase.call resource)) :
    Standing resource (.asked (I := interface) (phase.call resource) answer :: moments)
      (some (phase.resume resource answer)) := by
  cases phase with
  | seeking reference =>
      cases (answer : Except Fault ProviderConfigSpec) with
      | error fault => exact .refused (.unresolved hcomes fault)
      | ok config => exact .pending (.recording config.credentials hcomes)
  | recording reference credentials =>
      cases (answer : Except Fault Unit) with
      | error fault => exact .refused (.untracked hcomes fault)
      | ok answer =>
          change Standing resource _ (some (fromChoice resource (choice credentials)))
          cases hchosen : choice credentials with
          | error fault => exact .refused (.unselected hcomes hchosen)
          | ok source => exact .pending (.reading hcomes hchosen)
  | reading source =>
      change Standing resource _ (some (fromBytes resource (source.bytes answer)))
      cases hgives : source.bytes answer with
      | error fault => exact .refused (.unread hcomes answer hgives)
      | ok data =>
          rw [fromBytes]
          cases hoffered : (Login.read data).bind Login.token with
          | error fault =>
              exact .refused
                  (.unusable hcomes answer hgives (Authentication.offers_iff.mpr hoffered))
          | ok token =>
              exact .pending
                  (.entering hcomes answer hgives (Authentication.offers_iff.mpr hoffered))
  | entering token => exact .entered (.made hcomes)

theorem Standing.advance {present : Connection} {moment : Moment interface}
    (hstanding : Standing resource moments (some present))
    (hadvance : present.Advances moment rest) :
    Standing resource (moment :: moments) rest := by
  cases hstanding with
  | pending hcomes =>
      cases hadvance with
      | asked answer => exact hcomes.answered answer
      | lost => exact .lost hcomes
  | refused hhindered => cases hadvance
  | entered entered => cases hadvance

theorem Standing.of_reaches (hreached : (connect resource).Reaches moments rest) :
    Standing resource moments rest := by
  induction hreached with
  | here => exact .begin resource
  | step hreached hadvance ih => exact ih.advance hadvance

/-! Runs to every phase, and to every end -/

theorem fromTracking_ok (reference : ProviderConfigReference) {credentials : ProviderCredentials}
    {chosen : Except Fault Source} (hchooses : choice credentials = chosen) :
    fromTracking resource reference credentials (.ok ()) = fromChoice resource chosen := by
  rw [fromTracking, hchooses]

theorem fromBytes_ok {data : Bytes} {bytes : Except Fault Bytes} {offer : Except Fault String}
    (hgives : bytes = .ok data) (hoffers : Offers data offer) :
    fromBytes resource bytes = fromOffer resource offer := by
  rw [hgives, fromBytes, hoffers.eq]

theorem reaches_answered {next : Connection}
    (hreached : (connect resource).Reaches moments (some (phase.script resource)))
    (answer : Answer (phase.call resource)) (hresumes : phase.resume resource answer = next) :
    (connect resource).Reaches (.asked (I := interface) (phase.call resource) answer :: moments)
      (some next) := by
  rw [← hresumes]
  exact hreached.step (Script.Advances.asked (I := interface) answer)

theorem Comes.reaches (hcomes : Comes resource phase moments) :
    (connect resource).Reaches moments (some (phase.script resource)) := by
  induction hcomes with
  | seeking hrefers hnamed =>
      rw [connect_of_named hrefers hnamed]
      exact .here
  | recording credentials hsought ih =>
      exact reaches_answered ih (Except.ok ⟨credentials⟩) rfl
  | @reading reference _ _ _ hrecorded hchosen ih =>
      exact reaches_answered ih (Except.ok ()) (fromTracking_ok reference hchosen)
  | entering htracked answer hgives hoffers ih =>
      exact reaches_answered ih answer (fromBytes_ok hgives hoffers)

theorem Entered.reaches {token : String} (hentered : Entered resource token moments) :
    (connect resource).Reaches moments (some (.done resource (.ok client))) := by
  cases hentered with
  | made hread => exact reaches_answered hread.reaches () rfl

theorem Hindered.reaches {fault : Fault} (hhindered : Hindered resource fault moments) :
    (connect resource).Reaches moments (some (refused resource fault)) := by
  cases hhindered with
  | unreferenced hnameless =>
      rw [connect_of_nameless hnameless]
      exact .here
  | unresolved hsought => exact reaches_answered hsought.reaches (Except.error fault) rfl
  | untracked hrecorded fault => exact reaches_answered hrecorded.reaches (Except.error fault) rfl
  | @unselected reference _ _ _ hrecorded hlacking =>
      exact reaches_answered hrecorded.reaches (Except.ok ()) (fromTracking_ok reference hlacking)
  | unread htracked answer hfails =>
      exact reaches_answered htracked.reaches answer (congrArg (fromBytes resource) hfails)
  | unusable htracked answer hgives hoffers =>
      exact reaches_answered htracked.reaches answer (fromBytes_ok hgives hoffers)

/-! What a connection has done -/

def Attributed (cause fault : Fault) : Prop :=
  (∃ inner, cause = .authenticationUnavailable inner ∧ fault = cause) ∨
    ((∀ inner, cause ≠ .authenticationUnavailable inner) ∧
      fault = .authenticationUnavailable cause)

def Call.apiToken? : Call → Option String
  | .authenticate apiToken => some apiToken
  | _ => none

/-- The tokens of the clients that have been made. -/
def apiTokens (moments : List (Moment interface)) : List String :=
  (moments.filterMap Moment.call?).filterMap Call.apiToken?

/-- What a run of a connection has done, and what became of it. -/
structure InTurn (resource : Credentials) (moments : List (Moment interface))
    (rest : Option Connection) : Prop where
  due : ∀ moment earlier, moment :: earlier <:+ moments →
    ∃ phase, Comes resource phase earlier ∧ moment.call? = some (phase.call resource)
  last : ∀ cause earlier, Hindered resource cause earlier → earlier <:+ moments → moments = earlier
  recorded : ∀ reference consumer,
    Call.authentication (.track reference consumer) ∈ moments.filterMap Moment.call? →
      ∃ config, heard (.providerConfig reference.name) (.ok config) ∈ moments
  read : ∀ source : Source, Call.authentication source.call ∈ moments.filterMap Moment.call? →
    ∃ reference credentials, heard (.providerConfig reference.name) (.ok ⟨credentials⟩) ∈ moments ∧
      heard (.track reference resource.reference) (.ok ()) ∈ moments ∧
      choice credentials = .ok source
  onward : ∀ script, rest = some script → (∃ result, script = .done resource result) ∨
    ∃ phase resume, Comes resource phase moments ∧
      script = .ask (I := interface) resource (phase.call resource) resume
  succeeds : (∃ held found, rest = some (.done held (.ok found))) ↔
    ∃ token, Entered resource token moments
  fails : ∀ fault, (∃ held, rest = some (.done held (.error fault))) ↔
    ∃ cause, Hindered resource cause moments ∧ Attributed cause fault
  made : ∀ token, Entered resource token moments →
    rest = some (.done resource (.ok client)) ∧ apiTokens moments = [token]
  unmade : ∀ cause, Hindered resource cause moments → apiTokens moments = []
  indifferent : ∀ name first second later,
    moments = later ++ [heard (.providerConfig name) (.ok ⟨first⟩)] → SameChoice first second →
      (connect resource).Reaches (later ++ [heard (.providerConfig name) (.ok ⟨second⟩)]) rest

theorem attributed_iff {cause fault : Fault} :
    Attributed cause fault ↔ fault = cause.unauthenticated := by
  cases cause <;> simp [Attributed, Fault.unauthenticated]

theorem Comes.due (hreached : (connect resource).Reaches moments rest) {moment : Moment interface}
    {earlier : List (Moment interface)} (hput : moment :: earlier <:+ moments) :
    ∃ phase, Comes resource phase earlier ∧ moment.call? = some (phase.call resource) := by
  induction hreached with
  | here => cases List.suffix_nil.mp hput
  | step hreached hadvance ih =>
      rcases List.suffix_cons_iff.mp hput with hsame | hput
      · cases hsame
        cases Standing.of_reaches hreached with
        | pending hcomes => cases hadvance <;> exact ⟨_, hcomes, rfl⟩
        | refused hhindered => cases hadvance
        | entered entered => cases hadvance
      · exact ih hput

theorem Comes.of_put (hreached : (connect resource).Reaches moments rest) {call : Call}
    (hput : call ∈ moments.filterMap Moment.call?) :
    ∃ phase earlier, Comes resource phase earlier ∧ call = phase.call resource ∧
      earlier ⊆ moments := by
  obtain ⟨moment, hmember, hasked⟩ := List.mem_filterMap.mp hput
  obtain ⟨later, earlier, rfl⟩ := List.append_of_mem hmember
  obtain ⟨phase, hcomes, hcalled⟩ := Comes.due hreached (List.suffix_append later _)
  refine ⟨phase, earlier, hcomes, Option.some.inj (hasked.symm.trans hcalled), ?_⟩
  exact List.Subset.trans (List.subset_cons_self _ _) (List.subset_append_right _ _)

theorem found_of_track (hreached : (connect resource).Reaches moments rest)
    {reference : ProviderConfigReference} {consumer : TypedReference}
    (hput : Call.authentication (.track reference consumer) ∈ moments.filterMap Moment.call?) :
    ∃ config, heard (.providerConfig reference.name) (.ok config) ∈ moments := by
  obtain ⟨phase, earlier, hcomes, hsame, hwithin⟩ := Comes.of_put hreached hput
  cases hcomes with
  | seeking hrefers hnamed => cases hsame
  | recording credentials hsought =>
      cases hsame
      exact ⟨_, hwithin List.mem_cons_self⟩
  | @reading _ _ source _ hrecorded hchosen => cases source <;> cases hsame
  | entering htracked answer hgives hoffers => cases hsame

theorem tracked_of_read (hreached : (connect resource).Reaches moments rest) {source : Source}
    (hput : Call.authentication source.call ∈ moments.filterMap Moment.call?) :
    ∃ reference credentials, heard (.providerConfig reference.name) (.ok ⟨credentials⟩) ∈ moments ∧
      heard (.track reference resource.reference) (.ok ()) ∈ moments ∧
      choice credentials = .ok source := by
  obtain ⟨phase, earlier, hcomes, hsame, hwithin⟩ := Comes.of_put hreached hput
  cases hcomes with
  | seeking hrefers hnamed => cases source <;> cases hsame
  | recording credentials hsought => cases source <;> cases hsame
  | @reading reference credentials other _ hrecorded hchosen =>
      cases Source.call_injective (Call.authentication.inj hsame)
      cases hrecorded with
      | recording credentials hsought =>
          exact ⟨reference, credentials, hwithin (.tail _ (.head _)), hwithin (.head _), hchosen⟩
  | entering htracked answer hgives hoffers => cases hsame

theorem Comes.apiTokens_eq_nil (hcomes : Comes resource phase moments) :
    apiTokens moments = [] := by
  induction hcomes with
  | seeking hrefers hnamed => rfl
  | recording credentials hsought ih => exact ih
  | reading hrecorded hchosen ih => exact ih
  | entering htracked answer hgives hoffers ih => exact ih

theorem Hindered.apiTokens_eq_nil {cause : Fault} (hhindered : Hindered resource cause moments) :
    apiTokens moments = [] := by
  cases hhindered with
  | unreferenced hnameless => rfl
  | unresolved hsought => exact hsought.apiTokens_eq_nil
  | untracked hrecorded => exact hrecorded.apiTokens_eq_nil
  | unselected hrecorded hlacking => exact hrecorded.apiTokens_eq_nil
  | unread htracked answer hfails => exact htracked.apiTokens_eq_nil
  | unusable htracked answer hgives hoffers => exact htracked.apiTokens_eq_nil

theorem Entered.apiTokens_eq {token : String} (hentered : Entered resource token moments) :
    apiTokens moments = [token] := by
  cases hentered with
  | made hread => exact congrArg (token :: ·) hread.apiTokens_eq_nil

/-- The selectors of other sources than the chosen one make no difference. -/
theorem reaches_of_sameChoice {name : String} {first second : ProviderCredentials}
    {later : List (Moment interface)} (hsame : SameChoice first second)
    (hreached : (connect resource).Reaches
      (later ++ [heard (.providerConfig name) (.ok ⟨first⟩)]) rest) :
    (connect resource).Reaches (later ++ [heard (.providerConfig name) (.ok ⟨second⟩)]) rest := by
  obtain ⟨phase, hcomes, hcalled⟩ := Comes.due hreached (List.suffix_append later _)
  cases hcomes with
  | @seeking reference hrefers hnamed =>
      cases hcalled
      have halike : fromTracking resource reference first =
          fromTracking resource reference second := by
        funext answer
        cases answer with
        | error fault => rfl
        | ok answer => exact congrArg (fromChoice resource) hsame.choice_eq
      have hscript : (Phase.recording reference first).script resource =
          (Phase.recording reference second).script resource :=
        congrArg (Script.ask (I := interface) resource _) halike
      have honwards := (Comes.recording first (.seeking hrefers hnamed)).reaches.cut hreached
      rw [hscript] at honwards
      exact (Comes.recording second (.seeking hrefers hnamed)).reaches.append honwards

/-- A connection takes one step after another and stops at the first that fails, with the fault of
that step. A client is made only at the end, once, of the token that was read. -/
theorem connect_in_turn (reached : (connect resource).Reaches moments rest) :
    InTurn resource moments rest where
  due moment earlier put := Comes.due reached put
  last cause earlier hindered within := by
    obtain ⟨later, rfl⟩ := within
    obtain ⟨rfl, -⟩ := (hindered.reaches.cut reached).of_done
    rfl
  recorded reference consumer put := found_of_track reached put
  read source put := tracked_of_read reached put
  onward script stands := by
    subst stands
    cases Standing.of_reaches reached with
    | pending hcomes => exact .inr ⟨_, _, hcomes, rfl⟩
    | refused hindered => exact .inl ⟨_, rfl⟩
    | entered entered => exact .inl ⟨_, rfl⟩
  succeeds := by
    constructor
    · rintro ⟨held, found, rfl⟩
      cases Standing.of_reaches reached with
      | entered entered => exact ⟨_, entered⟩
    · rintro ⟨token, entered⟩
      -- There is a run to this end, and what is heard determines a run.
      exact ⟨resource, client, reached.unique entered.reaches⟩
  fails fault := by
    constructor
    · rintro ⟨held, rfl⟩
      cases Standing.of_reaches reached with
      | refused hindered => exact ⟨_, hindered, attributed_iff.mpr rfl⟩
    · rintro ⟨cause, hindered, hattributed⟩
      rw [attributed_iff.mp hattributed]
      exact ⟨resource, reached.unique hindered.reaches⟩
  made token entered := ⟨reached.unique entered.reaches, entered.apiTokens_eq⟩
  unmade cause hindered := hindered.apiTokens_eq_nil
  indifferent name first second later hsame choices := by
    subst hsame
    exact reaches_of_sameChoice choices reached

def repetitive : String := "\x7b\"api_token\":\"\",\"api_token\":\"secret\"\x7d"

def ambient : ProviderCredentials := ⟨.environment, none, some "API_TOKEN", some "/token"⟩

theorem connect_in_turn_applicant :
    (connect applicant).Reaches
        [.asked (I := interface) (.authenticate "secret") (),
          heard (.variable "API_TOKEN") (.ok repetitive),
          heard (.track .fallback applicant.reference) (.ok ()),
          heard (.providerConfig "default") (.ok ⟨ambient⟩)]
        (some (.done applicant (.ok client))) ∧
      InTurn applicant
        [.asked (I := interface) (.authenticate "secret") (),
          heard (.variable "API_TOKEN") (.ok repetitive),
          heard (.track .fallback applicant.reference) (.ok ()),
          heard (.providerConfig "default") (.ok ⟨ambient⟩)]
        (some (.done applicant (.ok client))) := by
  have hknown : Authentication.texts? (Text.encode repetitive) =
      some (.singleton "api_token" "secret") := by decide +kernel
  obtain ⟨texts, hlists, hsame⟩ := Authentication.texts?_eq_some_iff.mp hknown
  have hlast : Authentication.Last texts "api_token" "secret" := by
    rw [← Authentication.get?_ofList_eq_some_iff, hsame]
    decide
  have hoffers : Offers (Text.encode repetitive) (.ok "secret") := .token hlists hlast (by decide)
  have hsought : Comes applicant (.seeking .fallback) [] := .seeking rfl (by decide)
  have htracked : Comes applicant (.reading (.environment "API_TOKEN")) _ :=
    .reading (.recording ambient hsought) rfl
  have hentered := Entered.made (.entering htracked (Except.ok repetitive) rfl hoffers)
  exact ⟨hentered.reaches, connect_in_turn hentered.reaches⟩

end BucketKeys.Issuance
