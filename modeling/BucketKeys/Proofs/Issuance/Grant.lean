import BucketKeys.Proofs.Issuance.Protocol
import BucketKeys.Proofs.Issuance.Rehearsal
import BucketKeys.Proofs.Script.Determinism

/-!
What a token is asked for: no permission and no resource beyond those that the resource declares,
as far as the catalog of the same creation grants them.
-/

namespace BucketKeys.Issuance

open TokenApi

/-! Declarations -/

/-- Declared, or left to the default of both. -/
def Wanted (permissions : List Permission) (permission : Permission) : Prop :=
  permissions = [] ∨ permission ∈ permissions

instance (permissions : List Permission) (permission : Permission) :
    Decidable (Wanted permissions permission) :=
  inferInstanceAs (Decidable (_ ∨ _))

/-- A permission that is wanted is granted by the group of its name. -/
def Covered (permissions : List Permission) (group : PermissionGroup) : Prop :=
  (Wanted permissions .read ∧ group.name = "Workers R2 Storage Bucket Item Read") ∨
    (Wanted permissions .write ∧ group.name = "Workers R2 Storage Bucket Item Write")

instance (permissions : List Permission) (group : PermissionGroup) :
    Decidable (Covered permissions group) :=
  inferInstanceAs (Decidable (_ ∨ _))

/-- The only resource of a request: the bucket, or the account where no bucket is named. -/
structure Scoped (parameters : TokenParameters) (key : String) : Prop where
  bucket : ∀ bucket, parameters.bucketName = some bucket → bucket ≠ "" →
    key = "com.cloudflare.edge.r2.bucket." ++ parameters.accountId ++ "_default_" ++ bucket
  account : (∀ bucket, parameters.bucketName = some bucket → bucket = "") →
    key = "com.cloudflare.api.account." ++ parameters.accountId

/-- The request asks for what the parameters declare, out of the catalog. -/
structure Declared (parameters : TokenParameters) (catalog : List PermissionGroup)
    (request : TokenRequest) : Prop where
  named : request.name = parameters.name
  allowed : ∃ policy, request.policies = [policy] ∧ policy.effect = "allow" ∧
    (∃ key, policy.resources.entries = [(key, "*")] ∧ Scoped parameters key) ∧
    policy.permissionGroups =
      (catalog.filter (Covered parameters.permissions ·)).map fun group =>
        ⟨group.id, some group.name⟩

theorem grants_iff {permissions : List Permission} {group : PermissionGroup} :
    grants permissions group = true ↔ Covered permissions group := by
  simp only [grants, wants, readGroupName, writeGroupName, Covered, Wanted, Bool.or_eq_true,
    Bool.and_eq_true, List.isEmpty_iff, List.contains_iff_mem, beq_iff_eq]

theorem selectGroups_eq (catalog : List PermissionGroup) (permissions : List Permission) :
    selectGroups catalog permissions =
      (catalog.filter (Covered permissions ·)).map fun group => ⟨group.id, some group.name⟩ := by
  have hsame : grants permissions = fun group => decide (Covered permissions group) := by
    funext group
    rw [Bool.eq_iff_iff, grants_iff, decide_eq_true_iff]
  rw [selectGroups, hsame]
  rfl

theorem selectGroups_eq_nil {catalog : List PermissionGroup} {permissions : List Permission} :
    selectGroups catalog permissions = [] ↔ ∀ group ∈ catalog, ¬ Covered permissions group := by
  simp [selectGroups_eq, List.filter_eq_nil_iff]

theorem covered_congr {first second : List Permission}
    (hsame : ∀ permission, permission ∈ first ↔ permission ∈ second) (group : PermissionGroup) :
    Covered first group ↔ Covered second group := by
  have hempty : first = [] ↔ second = [] := by
    simp only [List.eq_nil_iff_forall_not_mem, hsame]
  simp only [Covered, Wanted, hempty, hsame]

theorem scoped_resourceKey (parameters : TokenParameters) :
    Scoped parameters (resourceKey parameters.accountId parameters.bucketName) where
  bucket bucket hnamed nonempty := by
    have hkept : (some bucket).filter (!·.isEmpty) = some bucket := by simp [nonempty]
    rw [resourceKey, hnamed, hkept]
  account nameless := by
    have hdropped : parameters.bucketName.filter (!·.isEmpty) = none := by
      rw [Option.filter_eq_none_iff]
      intro bucket hnamed
      simp [nameless bucket hnamed]
    rw [resourceKey, hdropped]

theorem declared_tokenRequest (parameters : TokenParameters) (catalog : List PermissionGroup) :
    Declared parameters catalog
      (tokenRequest parameters (selectGroups catalog parameters.permissions)) where
  named := rfl
  allowed := by
    refine ⟨_, rfl, rfl, ⟨_, rfl, scoped_resourceKey parameters⟩, ?_⟩
    exact selectGroups_eq catalog parameters.permissions

/-! Runs of a creation: what is left of it behind each of its two questions -/

abbrev Issue := Script interface Credentials (Except Fault ConnectionDetails)

variable {resource : Credentials} {moments : List (Moment interface)} {rest : Option Issue}

def fromToken (resource : Credentials) : Except Failure Token → Issue
  | .error failure => .done resource (.error (.tokenCreationFailed failure))
  | .ok token => .done (resource.setExternalName token.id)
      (.ok (detailsOf resource token))

def requestFrom (resource : Credentials) (catalog : List PermissionGroup) : TokenRequest :=
  tokenRequest resource.spec.forProvider
    (selectGroups catalog resource.spec.forProvider.permissions)

def fromCatalog (resource : Credentials) : Except Failure (List PermissionGroup) → Issue
  | .error failure => .done resource (.error (.permissionGroupLookupFailed failure))
  | .ok catalog =>
    if (selectGroups catalog resource.spec.forProvider.permissions).isEmpty then
      .done resource (.error .noMatchingPermissionGroups)
    else .ask resource (Call.createToken (requestFrom resource catalog)) (fromToken resource)

theorem create_eq (resource : Credentials) :
    create resource =
      .ask (I := interface) resource .listPermissionGroups (fromCatalog resource) := by
  change Script.ask (I := interface) resource .listPermissionGroups _ = _
  congr 1
  funext answer
  cases answer with
  | error failure => rfl
  | ok catalog =>
      -- The choice between groups and none stands below a bind, and does not reduce by itself.
      change Script.bind ((if _ then Work.fail .noMatchingPermissionGroups else pure _ :
        Work interface Credentials (List GroupReference)) resource) _ = _
      rw [fromCatalog]
      split
      · rfl
      · change Script.ask (I := interface) resource (.createToken _) _ = _
        congr 1
        funext answer
        cases answer <;> rfl

/-- The runs of a creation, as far as they came, the last moment first. -/
inductive Attempt (resource : Credentials) : List (Moment interface) → Option Issue → Prop
  | unbegun : Attempt resource [] (some (create resource))
  | unlisted : Attempt resource [.lost (I := interface) .listPermissionGroups] none
  | listed (answer : Except Failure (List PermissionGroup)) :
      Attempt resource [.asked (I := interface) .listPermissionGroups answer]
        (some (fromCatalog resource answer))
  | unanswered (catalog : List PermissionGroup)
      (found : selectGroups catalog resource.spec.forProvider.permissions ≠ []) :
      Attempt resource
        [.lost (I := interface) (.createToken (requestFrom resource catalog)),
          .asked (I := interface) .listPermissionGroups (.ok catalog)] none
  | answered (catalog : List PermissionGroup) (answer : Except Failure Token)
      (found : selectGroups catalog resource.spec.forProvider.permissions ≠ []) :
      Attempt resource
        [.asked (I := interface) (.createToken (requestFrom resource catalog)) answer,
          .asked (I := interface) .listPermissionGroups (.ok catalog)]
        (some (fromToken resource answer))

theorem fromCatalog_of_none {catalog : List PermissionGroup}
    (hnone : selectGroups catalog resource.spec.forProvider.permissions = []) :
    fromCatalog resource (.ok catalog) = .done resource (.error .noMatchingPermissionGroups) :=
  if_pos (List.isEmpty_iff.mpr hnone)

theorem fromCatalog_of_some {catalog : List PermissionGroup}
    (hfound : selectGroups catalog resource.spec.forProvider.permissions ≠ []) :
    fromCatalog resource (.ok catalog) =
      .ask (I := interface) resource (.createToken (requestFrom resource catalog))
        (fromToken resource) :=
  if_neg fun hempty => hfound (List.isEmpty_iff.mp hempty)

theorem Attempt.of_fromToken {catalog : List PermissionGroup} {answer : Except Failure Token}
    (hfound : selectGroups catalog resource.spec.forProvider.permissions ≠ [])
    (hreached : (fromToken resource answer).Reaches moments rest) :
    Attempt resource
      (moments ++ [.asked (I := interface) (.createToken (requestFrom resource catalog)) answer,
        .asked (I := interface) .listPermissionGroups (.ok catalog)]) rest := by
  have hwhole := Attempt.answered catalog answer hfound
  cases answer with
  | error failure =>
      obtain ⟨rfl, rfl⟩ := hreached.of_done
      exact hwhole
  | ok token =>
      obtain ⟨rfl, rfl⟩ := hreached.of_done
      exact hwhole

theorem Attempt.of_fromCatalog {answer : Except Failure (List PermissionGroup)}
    (hreached : (fromCatalog resource answer).Reaches moments rest) :
    Attempt resource (moments ++ [.asked (I := interface) .listPermissionGroups answer]) rest := by
  have hwhole : Attempt resource _ _ := .listed answer
  cases answer with
  | error failure =>
      obtain ⟨rfl, rfl⟩ := hreached.of_done
      exact hwhole
  | ok catalog =>
      by_cases hnone : selectGroups catalog resource.spec.forProvider.permissions = []
      · rw [fromCatalog_of_none hnone] at hreached hwhole
        obtain ⟨rfl, rfl⟩ := hreached.of_done
        exact hwhole
      · rw [fromCatalog_of_some hnone] at hreached hwhole
        rcases hreached.of_ask with ⟨rfl, rfl⟩ | ⟨rfl, rfl⟩ | ⟨answer, later, rfl, honwards⟩
        · exact hwhole
        · exact .unanswered catalog hnone
        · rw [List.append_assoc]
          exact .of_fromToken hnone honwards

/-- Every run is one of these. -/
theorem Attempt.of_reaches (hreached : (create resource).Reaches moments rest) :
    Attempt resource moments rest := by
  rw [create_eq] at hreached
  rcases hreached.of_ask with ⟨rfl, rfl⟩ | ⟨rfl, rfl⟩ | ⟨answer, later, rfl, honwards⟩
  · rw [← create_eq]
    exact .unbegun
  · exact .unlisted
  · exact .of_fromCatalog honwards

/-! What a creation is confined to -/

/-- What a run of a creation has asked for, and what became of it. -/
structure Confined (resource : Credentials) (moments : List (Moment interface))
    (rest : Option Issue) : Prop where
  order : moments.filterMap Moment.call? = [] ∨
    moments.filterMap Moment.call? = [Call.listPermissionGroups] ∨
    ∃ request, moments.filterMap Moment.call? = [.createToken request, .listPermissionGroups]
  complete : ∀ held result, rest = some (.done held result) →
    Call.listPermissionGroups ∈ moments.filterMap Moment.call?
  declared : ∀ request, Call.createToken request ∈ moments.filterMap Moment.call? →
    ∃ catalog, .asked (I := interface) .listPermissionGroups (.ok catalog) ∈ moments ∧
      (∃ group ∈ catalog, Covered resource.spec.forProvider.permissions group) ∧
      ∀ permissions,
        (∀ permission, permission ∈ permissions ↔
          permission ∈ resource.spec.forProvider.permissions) →
        Declared { resource.spec.forProvider with permissions := permissions } catalog request
  unlisted : ∀ failure, .asked (I := interface) .listPermissionGroups (.error failure) ∈ moments →
    moments.filterMap Moment.call? = [Call.listPermissionGroups] ∧
      rest = some (.done resource (.error (.permissionGroupLookupFailed failure)))
  unmatched : ∀ catalog, .asked (I := interface) .listPermissionGroups (.ok catalog) ∈ moments →
    (∀ group ∈ catalog, ¬ Covered resource.spec.forProvider.permissions group) →
    moments.filterMap Moment.call? = [Call.listPermissionGroups] ∧
      rest = some (.done resource (.error .noMatchingPermissionGroups))
  requested : ∀ catalog, .asked (I := interface) .listPermissionGroups (.ok catalog) ∈ moments →
    (∃ group ∈ catalog, Covered resource.spec.forProvider.permissions group) →
    ∀ held result, rest = some (.done held result) →
      ∃ request, Call.createToken request ∈ moments.filterMap Moment.call?
  rejected : ∀ request failure,
    .asked (I := interface) (.createToken request) (.error failure) ∈ moments →
    rest = some (.done resource (.error (.tokenCreationFailed failure)))
  issued : ∀ request token, .asked (I := interface) (.createToken request) (.ok token) ∈ moments →
    rest = some (.done (resource.setExternalName token.id) (.ok (detailsOf resource token))) ∧
      (token.id ≠ "" → (resource.setExternalName token.id).externalName? = some token.id)

theorem exists_covered {catalog : List PermissionGroup} {permissions : List Permission}
    (hfound : selectGroups catalog permissions ≠ []) :
    ∃ group ∈ catalog, Covered permissions group := by
  simpa [selectGroups_eq_nil] using hfound

theorem declared_requestFrom (resource : Credentials) (catalog : List PermissionGroup)
    {permissions : List Permission}
    (hsame : ∀ permission, permission ∈ permissions ↔
      permission ∈ resource.spec.forProvider.permissions) :
    Declared { resource.spec.forProvider with permissions := permissions } catalog
      (requestFrom resource catalog) := by
  have hselects : selectGroups catalog permissions =
      selectGroups catalog resource.spec.forProvider.permissions := by
    simp only [selectGroups_eq, covered_congr hsame]
  have hdeclares := declared_tokenRequest
    { resource.spec.forProvider with permissions := permissions } catalog
  rw [hselects] at hdeclares
  exact hdeclares

theorem Attempt.order (hattempt : Attempt resource moments rest) :
    moments.filterMap Moment.call? = [] ∨
      moments.filterMap Moment.call? = [Call.listPermissionGroups] ∨
      ∃ request,
        moments.filterMap Moment.call? = [.createToken request, .listPermissionGroups] := by
  cases hattempt with
  | unbegun => exact .inl rfl
  | unlisted => exact .inr (.inl rfl)
  | listed answer => exact .inr (.inl rfl)
  | unanswered catalog hfound => exact .inr (.inr ⟨_, rfl⟩)
  | answered catalog answer hfound => exact .inr (.inr ⟨_, rfl⟩)

theorem Attempt.listed_of_done {held : Credentials} {result : Except Fault ConnectionDetails}
    (hattempt : Attempt resource moments rest) (hended : rest = some (.done held result)) :
    Call.listPermissionGroups ∈ moments.filterMap Moment.call? := by
  cases hattempt with
  | unbegun =>
      rw [create_eq] at hended
      cases hended
  | unlisted => cases hended
  | listed answer => exact .head _
  | unanswered catalog hfound => cases hended
  | answered catalog answer hfound => exact .tail _ (.head _)

theorem Attempt.request_eq {request : TokenRequest} (hattempt : Attempt resource moments rest)
    (hasked : Call.createToken request ∈ moments.filterMap Moment.call?) :
    ∃ catalog, .asked (I := interface) .listPermissionGroups (.ok catalog) ∈ moments ∧
      selectGroups catalog resource.spec.forProvider.permissions ≠ [] ∧
      request = requestFrom resource catalog := by
  cases hattempt with
  | unbegun => cases hasked
  | unlisted => cases List.mem_singleton.mp hasked
  | listed answer => cases List.mem_singleton.mp hasked
  | unanswered catalog hfound =>
      rcases List.mem_cons.mp hasked with hsame | hlater
      · cases hsame
        exact ⟨catalog, .tail _ (.head _), hfound, rfl⟩
      · cases List.mem_singleton.mp hlater
  | answered catalog answer hfound =>
      rcases List.mem_cons.mp hasked with hsame | hlater
      · cases hsame
        exact ⟨catalog, .tail _ (.head _), hfound, rfl⟩
      · cases List.mem_singleton.mp hlater

theorem Attempt.of_heard {answer : Except Failure (List PermissionGroup)}
    (hattempt : Attempt resource moments rest)
    (hheard : .asked (I := interface) .listPermissionGroups answer ∈ moments) :
    (moments = [.asked (I := interface) .listPermissionGroups answer] ∧
      rest = some (fromCatalog resource answer)) ∨
    ∃ catalog, answer = .ok catalog ∧
      selectGroups catalog resource.spec.forProvider.permissions ≠ [] ∧
      Call.createToken (requestFrom resource catalog) ∈ moments.filterMap Moment.call? := by
  cases hattempt with
  | unbegun => cases hheard
  | unlisted => cases List.mem_singleton.mp hheard
  | listed answer =>
      cases List.mem_singleton.mp hheard
      exact .inl ⟨rfl, rfl⟩
  | unanswered catalog hfound =>
      rcases List.mem_cons.mp hheard with hother | hlater
      · cases hother
      · cases List.mem_singleton.mp hlater
        exact .inr ⟨catalog, rfl, hfound, .head _⟩
  | answered catalog answer hfound =>
      rcases List.mem_cons.mp hheard with hother | hlater
      · cases hother
      · cases List.mem_singleton.mp hlater
        exact .inr ⟨catalog, rfl, hfound, .head _⟩

theorem Attempt.of_answered {request : TokenRequest} {answer : Except Failure Token}
    (hattempt : Attempt resource moments rest)
    (hheard : .asked (I := interface) (.createToken request) answer ∈ moments) :
    rest = some (fromToken resource answer) := by
  cases hattempt with
  | unbegun => cases hheard
  | unlisted => cases List.mem_singleton.mp hheard
  | listed answer => cases List.mem_singleton.mp hheard
  | unanswered catalog hfound =>
      rcases List.mem_cons.mp hheard with hother | hlater
      · cases hother
      · cases List.mem_singleton.mp hlater
  | answered catalog answer hfound =>
      rcases List.mem_cons.mp hheard with hsame | hlater
      · cases hsame
        rfl
      · cases List.mem_singleton.mp hlater

/-- A token is asked for at most once, after the catalog and for what the resource declares of it,
and the resource is named after the token that is issued. -/
theorem create_confined (reached : (create resource).Reaches moments rest) :
    Confined resource moments rest := by
  have hattempt := Attempt.of_reaches reached
  refine
    { order := hattempt.order
      complete := ?_
      declared := ?_
      unlisted := ?_
      unmatched := ?_
      requested := ?_
      rejected := fun request failure hheard => hattempt.of_answered hheard
      issued := fun request token hheard =>
        ⟨hattempt.of_answered hheard, fun hnamed =>
          Credentials.externalName?_setExternalName hnamed resource⟩ }
  · intro held result hended
    exact hattempt.listed_of_done hended
  · intro request hasked
    obtain ⟨catalog, hheard, hfound, rfl⟩ := hattempt.request_eq hasked
    refine ⟨catalog, hheard, exists_covered hfound, ?_⟩
    intro permissions hsame
    exact declared_requestFrom resource catalog hsame
  · intro failure hheard
    rcases hattempt.of_heard hheard with ⟨rfl, hended⟩ | ⟨catalog, hother, -, -⟩
    · exact ⟨rfl, hended⟩
    · cases hother
  · intro catalog hheard hnone
    have hempty := selectGroups_eq_nil.mpr hnone
    rcases hattempt.of_heard hheard with ⟨rfl, hended⟩ | ⟨_, hsame, hfound, -⟩
    · rw [fromCatalog_of_none hempty] at hended
      exact ⟨rfl, hended⟩
    · cases hsame
      exact absurd hempty hfound
  · intro catalog hheard ⟨group, hmember, hcovered⟩ held result hended
    have hfound : selectGroups catalog resource.spec.forProvider.permissions ≠ [] :=
      fun hempty => selectGroups_eq_nil.mp hempty group hmember hcovered
    rcases hattempt.of_heard hheard with ⟨-, hstanding⟩ | ⟨_, -, -, hasked⟩
    · rw [fromCatalog_of_some hfound, hended] at hstanding
      cases hstanding
    · exact ⟨_, hasked⟩

/-- A catalog with a group twice, and with names that are not quite those of groups. -/
def crowded : List PermissionGroup :=
  [⟨"1", "Workers R2 Storage Read", []⟩, ⟨"2", readGroupName, []⟩, ⟨"3", "DNS Write", []⟩,
    ⟨"4", writeGroupName, []⟩, ⟨"2", readGroupName, []⟩]

theorem create_confined_applicant :
    (create applicant).Reaches
        [.asked (I := interface) (.createToken (requestFrom applicant crowded))
            (.ok (tokenNamed "token")),
          .asked (I := interface) .listPermissionGroups (.ok crowded)]
        (some (fromToken applicant (.ok (tokenNamed "token")))) ∧
      Confined applicant
        [.asked (I := interface) (.createToken (requestFrom applicant crowded))
            (.ok (tokenNamed "token")),
          .asked (I := interface) .listPermissionGroups (.ok crowded)]
        (some (fromToken applicant (.ok (tokenNamed "token")))) := by
  have hfound : selectGroups crowded applicant.spec.forProvider.permissions ≠ [] := by decide
  have hlists : (create applicant).Advances
      (.asked (I := interface) .listPermissionGroups (.ok crowded))
      (some (fromCatalog applicant (.ok crowded))) := by
    rw [create_eq]
    exact .asked _
  have hasks : (fromCatalog applicant (.ok crowded)).Advances
      (.asked (I := interface) (.createToken (requestFrom applicant crowded))
        (.ok (tokenNamed "token")))
      (some (fromToken applicant (.ok (tokenNamed "token")))) := by
    rw [fromCatalog_of_some hfound]
    exact .asked _
  have hreached := Script.Reaches.step (.step .here hlists) hasks
  exact ⟨hreached, create_confined hreached⟩

end BucketKeys.Issuance
