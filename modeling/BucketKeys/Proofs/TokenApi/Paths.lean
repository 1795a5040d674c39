import BucketKeys.Proofs.Url.Segments
import BucketKeys.TokenApi.Client

/-!
Where the calls lead that name a token: one segment below the collection of tokens, which tells the
identity, unless nothing but steps is left of the identity in a path.
-/

namespace BucketKeys.TokenApi.Call

open Url (Fits IsSegment Rooted slashed slashed_append slashed_eq tailText trimmed)

def Names (id : String) (call : Call) : Prop :=
  call = .getToken id ∨ call = .deleteToken id

variable {base : Rooted} {apiToken id text : String} {call : Call} {request : Request}

theorem isIdentity_iff : isIdentity id = true ↔ id ∉ ["", ".", ".."] := by
  simp [isIdentity, and_assoc]

theorem segments?_of_identity (hnames : Names id call) (hidentity : id ∉ ["", ".", ".."]) :
    call.segments? = some ["user", "tokens", id] := by
  have hnamed := isIdentity_iff.mpr hidentity
  rcases hnames with rfl | rfl
  · exact if_pos hnamed
  · exact if_pos hnamed

theorem segments?_of_step (hnames : Names id call) (hstep : id ∈ ["", ".", ".."]) :
    call.segments? = none := by
  have hunnamed : ¬ isIdentity id = true := fun hnamed => isIdentity_iff.mp hnamed hstep
  rcases hnames with rfl | rfl
  · exact if_neg hunnamed
  · exact if_neg hunnamed

/-- A request is sent to any host of the web, under an address that is not too long. -/
theorem exists_request?_iff {segments : List String} (hpath : call.segments? = some segments) :
    (∃ request, request? base apiToken call = some request) ↔
      base.isWeb = true ∧ (base.below segments).addressSize ≤ Url.Target.sizeLimit ∧
        isHeaderText apiToken = true := by
  simp only [request?_eq_some_iff hpath, exists_and_left, exists_eq', and_true, Rooted.isSendable,
    Rooted.isWeb_below, Bool.and_eq_true, decide_eq_true_eq, and_assoc]

theorem target_of_request? {segments : List String} (hpath : call.segments? = some segments)
    (hsent : request? base apiToken call = some request) :
    request.target = (base.below segments).target := by
  rw [← ((request?_eq_some_iff hpath).mp hsent).2]
  rfl

theorem run_of_step (hpath : call.segments? = none) (response : Option Response) (seconds : Float)
    (metrics : Metrics) : call.run response seconds metrics = (.error unknownToken, metrics) := by
  rw [run, hpath]

/-- A call whose request could not be sent is counted all the same. -/
theorem run_unsent {segments : List String} (hpath : call.segments? = some segments)
    (seconds : Float) (metrics : Metrics) :
    call.run none seconds metrics =
      (.error unanswered, metrics.recordCall call.operation "transient" seconds) := by
  rw [run, hpath]
  rfl

def targetBelow (base : Rooted) (segments : List String) : String :=
  "/" ++ "/".intercalate (base.stem ++ segments) ++ tailText "?" base.query

theorem targetBelow_eq {segments : List String} (hnonempty : segments ≠ []) :
    targetBelow base segments =
      slashed base.stem ++ slashed segments ++ tailText "?" base.query := by
  rw [targetBelow, slashed_eq (by simp [hnonempty]), slashed_append]

theorem target_of_identity (hnames : Names id call)
    (hsent : request? base apiToken call = some request) :
    request.target = targetBelow base
      (if Rooted.kept id = ['.'] then ["user", "tokens", ""]
      else if Rooted.kept id = ['.', '.'] then ["user", ""]
      else ["user", "tokens", base.encoded id]) := by
  by_cases hstep : id ∈ ["", ".", ".."]
  · rw [request?, segments?_of_step hnames hstep] at hsent
    cases hsent
  · have hpath := segments?_of_identity hnames hstep
    simp only [List.mem_cons, List.not_mem_nil, or_false, not_or] at hstep
    rw [target_of_request? hpath hsent, targetBelow, Rooted.target, Rooted.query_below,
      Rooted.path_below hstep.2.1 hstep.2.2]
    split
    · rfl
    · split
      · rfl
      · rfl

/-- The target of one token: below the base and the collection stands one segment that is no
step. -/
def NamesToken (base : Rooted) (target : String) : Prop :=
  ∃ segment, segment ∉ ["", ".", ".."] ∧ IsSegment segment ∧
    target = targetBelow base ["user", "tokens", segment]

theorem targetBelow_token (base : Rooted) (segment : String) :
    targetBelow base ["user", "tokens", segment] =
      slashed base.stem ++ "/user/tokens/" ++ segment ++ tailText "?" base.query := by
  have hpath : slashed ["user", "tokens", segment] = "/user/tokens/" ++ segment := by
    apply String.toList_injective
    simp [slashed]
  rw [targetBelow_eq (by simp), hpath, ← String.append_assoc]

theorem targetBelow_token_inj {first second : String}
    (hsame : targetBelow base ["user", "tokens", first] =
      targetBelow base ["user", "tokens", second]) : first = second := by
  rw [targetBelow_token, targetBelow_token, String.append_left_inj,
    String.append_right_inj] at hsame
  exact hsame

theorem not_namesToken_collection (base : Rooted) :
    ¬ NamesToken base (targetBelow base ["user", "tokens", ""]) := by
  rintro ⟨segment, hnoStep, -, hsame⟩
  exact hnoStep (targetBelow_token_inj hsame ▸ List.mem_cons_self)

theorem not_namesToken_parent (base : Rooted) :
    ¬ NamesToken base (targetBelow base ["user", ""]) := by
  rintro ⟨segment, -, -, hsame⟩
  rw [targetBelow_eq (by simp), targetBelow_eq (by simp), String.append_left_inj,
    String.append_right_inj] at hsame
  -- One ends behind the first slash, where the other goes on with the collection.
  have hcharacters := congrArg String.toList hsame
  simp [slashed] at hcharacters

theorem namesToken_of_kept (hkept : Rooted.kept id ∉ [[], ['.'], ['.', '.']]) (base : Rooted) :
    NamesToken base (targetBelow base ["user", "tokens", base.encoded id]) := by
  simp only [List.mem_cons, List.not_mem_nil, or_false, not_or] at hkept
  refine ⟨_, ?_, base.isSegment_encoded id, rfl⟩
  simp only [List.mem_cons, List.not_mem_nil, or_false, not_or]
  exact ⟨Rooted.encoded_ne (by decide) hkept.1 base, Rooted.encoded_ne (by decide) hkept.2.1 base,
    Rooted.encoded_ne (by decide) hkept.2.2 base⟩

theorem target_of_nothing (hnames : Names id call)
    (hsent : request? base apiToken call = some request)
    (hnothing : Rooted.kept id = [] ∨ Rooted.kept id = ['.']) :
    request.target = targetBelow base ["user", "tokens", ""] := by
  rw [target_of_identity hnames hsent]
  rcases hnothing with hnone | hhere
  · have hempty : base.encoded id = "" := by
      rw [Rooted.encoded, hnone]
      rfl
    rw [hnone, hempty]
    rfl
  · rw [if_pos hhere]

theorem target_of_up (hnames : Names id call) (hsent : request? base apiToken call = some request)
    (hup : Rooted.kept id = ['.', '.']) : request.target = targetBelow base ["user", ""] := by
  rw [target_of_identity hnames hsent, hup]
  rfl

theorem target_of_kept (hnames : Names id call) (hsent : request? base apiToken call = some request)
    (hkept : Rooted.kept id ∉ [[], ['.'], ['.', '.']]) :
    request.target = targetBelow base ["user", "tokens", base.encoded id] := by
  simp only [List.mem_cons, List.not_mem_nil, or_false, not_or] at hkept
  rw [target_of_identity hnames hsent, if_neg hkept.2.1, if_neg hkept.2.2]

/-- What a call that names a token comes to, by what is left of the identity without tabs and line
ends: the token, the collection, or what stands above it. -/
structure Guarded (base : Rooted) (apiToken id : String) (call : Call) : Prop where
  refused : id ∈ ["", ".", ".."] → request? base apiToken call = none ∧
    ∀ response seconds metrics, ∃ failure, call.run response seconds metrics =
      (.error failure, metrics) ∧ failure.isNotFound = true
  sent : id ∉ ["", ".", ".."] →
    ((∃ request, request? base apiToken call = some request) ↔
      base.isWeb = true ∧
        (base.below ["user", "tokens", id]).addressSize ≤ Url.Target.sizeLimit ∧
          isHeaderText apiToken = true)
  unsent : id ∉ ["", ".", ".."] → ∀ seconds metrics, ∃ failure, call.run none seconds metrics =
    (.error failure, metrics.recordCall call.operation "transient" seconds) ∧
      failure.kind = .transient
  token : ∀ request, request? base apiToken call = some request →
    (NamesToken base request.target ↔ Rooted.kept id ∉ [[], ['.'], ['.', '.']])
  collection : ∀ request, request? base apiToken call = some request →
    Rooted.kept id = [] ∨ Rooted.kept id = ['.'] →
      request.target = targetBelow base ["user", "tokens", ""]
  parent : ∀ request, request? base apiToken call = some request →
    Rooted.kept id = ['.', '.'] → request.target = targetBelow base ["user", ""]

theorem isSegment_of_read (hreads : BaseUrl.read text = .ok base) :
    ∀ segment ∈ base.path, IsSegment segment := by
  unfold BaseUrl.read at hreads
  split at hreads
  · cases hreads
  · cases hreads
  · rename_i url hfound
    cases hreads
    exact Url.isSegment_of_read? hfound

theorem namesToken_iff_kept (hnames : Names id call)
    (hsent : request? base apiToken call = some request) :
    NamesToken base request.target ↔ Rooted.kept id ∉ [[], ['.'], ['.', '.']] := by
  constructor
  · intro htoken hstep
    simp only [List.mem_cons, List.not_mem_nil, or_false, ← or_assoc] at hstep
    rcases hstep with hnothing | hup
    · rw [target_of_nothing hnames hsent hnothing] at htoken
      exact not_namesToken_collection base htoken
    · rw [target_of_up hnames hsent hup] at htoken
      exact not_namesToken_parent base htoken
  · intro hkept
    rw [target_of_kept hnames hsent hkept]
    exact namesToken_of_kept hkept base

/-- A call that names a token leads to it, unless only steps are left of the identity. -/
theorem token_call_guarded (reads : BaseUrl.read text = .ok base) (names : Names id call) :
    (∀ segment ∈ base.stem, IsSegment segment) ∧ Guarded base apiToken id call := by
  constructor
  · intro segment hmember
    exact isSegment_of_read reads segment (Rooted.mem_path_of_mem_stem hmember)
  · refine
      { refused := ?_
        sent := fun hidentity => exists_request?_iff (segments?_of_identity names hidentity)
        unsent := ?_
        token := fun request sent => namesToken_iff_kept names sent
        collection := fun request sent => target_of_nothing names sent
        parent := fun request sent => target_of_up names sent }
    · intro hstep
      have hpath := segments?_of_step names hstep
      refine ⟨by rw [request?, hpath]; rfl, fun response seconds metrics => ?_⟩
      exact ⟨unknownToken, run_of_step hpath response seconds metrics, by decide⟩
    · intro hidentity seconds metrics
      have hpath := segments?_of_identity names hidentity
      exact ⟨unanswered, run_unsent hpath seconds metrics, rfl⟩

def loopback (path : List String) : Rooted :=
  ⟨"http", some ⟨"", .ipv6 [0, 0, 0, 0, 0, 0, 0, 1], some 40000⟩, path, none, none⟩

theorem read_loopback :
    BaseUrl.read "http://[::1]:40000/client/v4/" = .ok (loopback ["client", "v4", ""]) := by
  have hreads : Url.read? "http://[::1]:40000/client/v4/" =
      some (.rooted (loopback ["client", "v4", ""])) := by decide +kernel
  rw [BaseUrl.read, hreads]

theorem token_call_guarded_loopback :
    BaseUrl.read "http://[::1]:40000/client/v4/" = .ok (loopback ["client", "v4", ""]) ∧
      Names "a/../b" (.deleteToken "a/../b") ∧
      Guarded (loopback ["client", "v4", ""]) "cf-admin-token" "a/../b" (.deleteToken "a/../b") :=
  ⟨read_loopback, .inr rfl, (token_call_guarded read_loopback (.inr rfl)).2⟩

/-- A tab alone is no step, and leads to the collection. -/
theorem tab_reaches_collection :
    BaseUrl.read "http://[::1]:40000/client/v4/" = .ok (loopback ["client", "v4", ""]) ∧
      ∃ request, request? (loopback ["client", "v4", ""]) "cf-admin-token" (.deleteToken "\t") =
          some request ∧
        request.target = "/client/v4/user/tokens/" ∧
        ¬ NamesToken (loopback ["client", "v4", ""]) request.target := by
  have hsent : request? (loopback ["client", "v4", ""]) "cf-admin-token" (.deleteToken "\t") =
      some _ := (request?_eq_some_iff rfl).mpr ⟨by decide +kernel, rfl⟩
  refine ⟨read_loopback, _, hsent, by decide, ?_⟩
  rw [namesToken_iff_kept (.inr rfl) hsent]
  decide

/-- An identity of which nothing is lost in a path. -/
structure Whole (id : String) : Prop where
  noStep : id ∉ ["", ".", ".."]
  unbroken : ∀ c ∈ id.toList, c ≠ '\t' ∧ c ≠ '\n' ∧ c ≠ '\r'

structure Telling (base : Rooted) (apiToken id : String) (call : Call) : Prop where
  sent : (∃ request, request? base apiToken call = some request) ↔
    base.isWeb = true ∧
      (base.below ["user", "tokens", id]).addressSize ≤ Url.Target.sizeLimit ∧
        isHeaderText apiToken = true
  target : ∀ request, request? base apiToken call = some request →
    ∃ encoded, request.target = trimmed ("/" ++ "/".intercalate base.path) ++ "/user/tokens/" ++
        encoded ++ tailText "?" base.query ∧
      (∀ c ∈ encoded.toList, Fits c) ∧
      Text.Percent.decode encoded.toList = Text.encode id
  distinct : ∀ request, request? base apiToken call = some request →
    ∀ other otherToken otherCall otherRequest, Whole other → Names other otherCall →
      request? base otherToken otherCall = some otherRequest →
      otherRequest.target = request.target → other = id

theorem Whole.kept_eq (hwhole : Whole id) : Rooted.kept id = id.toList := by
  rw [Rooted.kept, List.filter_eq_self]
  intro c hmember
  simpa [Rooted.isDropped, and_assoc] using hwhole.unbroken c hmember

theorem Whole.target_eq (hwhole : Whole id) (hnames : Names id call)
    (hsent : request? base apiToken call = some request) :
    request.target = targetBelow base ["user", "tokens", base.encoded id] := by
  apply target_of_kept hnames hsent
  rw [hwhole.kept_eq]
  intro hstep
  apply hwhole.noStep
  have htexts := List.mem_map_of_mem (f := String.ofList) hstep
  rw [String.ofList_toList] at htexts
  exact htexts

theorem token_call_telling (reads : BaseUrl.read text = .ok base) (names : Names id call)
    (whole : Whole id) : Telling base apiToken id call := by
  have hdecodes {id : String} (whole : Whole id) :
      Text.Percent.decode (base.encoded id).toList = Text.encode id := by
    rw [Rooted.decode_encoded, whole.kept_eq]
    rfl
  refine
    { sent := exists_request?_iff (segments?_of_identity names whole.noStep)
      target := ?_
      distinct := ?_ }
  · intro request sent
    refine ⟨base.encoded id, ?_, base.isSegment_encoded id, hdecodes whole⟩
    rw [whole.target_eq names sent, targetBelow_token,
      Rooted.trimmed_path (isSegment_of_read reads)]
  · intro request sent other otherToken otherCall otherRequest hotherWhole hotherNames hotherSent
        hsame
    rw [whole.target_eq names sent, hotherWhole.target_eq hotherNames hotherSent] at hsame
    apply Text.encode_injective
    rw [← hdecodes hotherWhole, targetBelow_token_inj hsame, hdecodes whole]

theorem token_call_telling_loopback :
    BaseUrl.read "http://[::1]:40000/client/v4/" = .ok (loopback ["client", "v4", ""]) ∧
      Names "%2e/ü" (.getToken "%2e/ü") ∧ Whole "%2e/ü" ∧
      Telling (loopback ["client", "v4", ""]) "cf-admin-token" "%2e/ü" (.getToken "%2e/ü") := by
  have hwhole : Whole "%2e/ü" := ⟨by decide, by simp⟩
  exact ⟨read_loopback, .inl rfl, hwhole, token_call_telling read_loopback (.inl rfl) hwhole⟩

theorem read_loopback_slashes : BaseUrl.read "http://[::1]:40000//" = .ok (loopback ["", ""]) := by
  have hreads : Url.read? "http://[::1]:40000//" = some (.rooted (loopback ["", ""])) := by
    decide +kernel
  rw [BaseUrl.read, hreads]

/-- Of two slashes alone none is left in front of the collection. -/
theorem both_slashes_lost :
    BaseUrl.read "http://[::1]:40000//" = .ok (loopback ["", ""]) ∧
      "/" ++ "/".intercalate (loopback ["", ""]).path = "//" ∧
      ∃ request, request? (loopback ["", ""]) "cf-admin-token" (.getToken "abc") = some request ∧
        request.target = "/user/tokens/abc" ∧
        ∀ encoded, request.target ≠
          "/" ++ "/user/tokens/" ++ encoded ++ tailText "?" (loopback ["", ""]).query := by
  have hsent : request? (loopback ["", ""]) "cf-admin-token" (.getToken "abc") = some _ :=
    (request?_eq_some_iff rfl).mpr ⟨by decide +kernel, rfl⟩
  refine ⟨read_loopback_slashes, by decide, _, hsent, by decide, ?_⟩
  intro encoded hsame
  have hcharacters := congrArg String.toList hsame
  change "/user/tokens/abc".toList = _ at hcharacters
  simp at hcharacters

end BucketKeys.TokenApi.Call
