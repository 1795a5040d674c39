import Mathlib.Algebra.Order.BigOperators.Group.List
import Mathlib.Algebra.Order.Group.Nat
import BucketKeys.Proofs.Course.Readings
import BucketKeys.Proofs.Course.Remote
import BucketKeys.Proofs.Issuance.Entry
import BucketKeys.Proofs.Issuance.Groundwork
import BucketKeys.Proofs.Round.Calm

/-!
Surroundings of rounds in which nothing fails: every write takes effect at once, the token service
keeps its tokens and tells the truth about them, and the clock never goes backwards. What the way to
a client and the writes of a pass come to there.
-/

namespace BucketKeys

theorem Time.Instant.not_lt_trans {first second third : Time.Instant} (hlater : ¬ second < first)
    (hlast : ¬ third < second) : ¬ third < first := by
  rw [lt_iff] at *
  omega

namespace Issuance

open TokenApi

open Time (Instant)

/-- What the surroundings tell whenever they are asked for it. -/
structure Promise where
  tells : (call : Authentication.Call) → Authentication.Answer call → Prop
  catalog : List PermissionGroup

/-- How the surroundings stand, and what they were asked for until then, the last of it first. -/
structure Haven where
  stored : Credentials
  tokens : List Token
  latest : Instant
  requests : List TokenRequest
  created : List Token
  published : List ConnectionDetails

namespace Haven

def token? (id : String) (haven : Haven) : Option Token :=
  haven.tokens.find? (·.id == id)

def after (act : Act) (haven : Haven) : Haven where
  stored := (written? act).elim haven.stored (·.apply haven.stored)
  tokens :=
    match ended? act with
    | some id => haven.tokens.filter (·.id != id)
    | none => (created? act).toList ++ haven.tokens
  latest := (reading? act).getD haven.latest
  requests := (requesting? act).toList ++ haven.requests
  created := (created? act).toList ++ haven.created
  published := (publishing? act).toList ++ haven.published

theorem exists_fresh (haven : Haven) : ∃ id, id ≠ "" ∧ haven.token? id = none := by
  let longest := (haven.tokens.map (·.id.length)).sum
  let fresh := String.ofList (List.replicate (longest + 1) 'x')
  have hlength : fresh.length = longest + 1 := by simp [fresh]
  refine ⟨fresh, ?_, ?_⟩
  · intro hempty
    simp [hempty] at hlength
  · refine List.find?_eq_none.mpr fun token hmember hsame => ?_
    have hshort : token.id.length ≤ longest :=
      List.single_le_sum (fun _ _ => Nat.zero_le _) _ (List.mem_map_of_mem hmember)
    rw [eq_of_beq hsame, hlength] at hshort
    omega

end Haven

namespace Promise

variable {promise : Promise} {haven : Haven}

def Answers (promise : Promise) (haven : Haven) : (call : Call) → Answer call → Prop
  | .authentication call, answer => promise.tells call answer
  | .authenticate _, _ => True
  | .listPermissionGroups, answer => answer = Except.ok promise.catalog
  | .createToken _, answer =>
      ∃ token : Token, answer = Except.ok token ∧ token.id ≠ "" ∧ haven.token? token.id = none
  | .getToken id, answer =>
      match haven.token? id with
      | some token => answer = Except.ok { token with value := none }
      | none => ∃ failure : Failure, answer = .error failure ∧ failure.isNotFound = true
  | .deleteToken id, answer =>
      match haven.token? id with
      | some _ => answer = Except.ok ()
      | none => ∃ failure : Failure, answer = .error failure ∧ failure.isNotFound = true

def Allows (promise : Promise) (haven : Haven) : Act → Prop
  | .asked (.remote call) answer => promise.Answers haven call answer
  | .asked (.updateAnnotations ..) answer => answer = Except.ok ()
  | .asked (.updateFinalizers ..) answer => answer = Except.ok ()
  | .asked (.updateStatus _) answer => answer = Except.ok ()
  | .asked (.publish ..) answer => answer = Except.ok ()
  | .asked (.pause _) _ => True
  | .lost _ => False
  | .read now => now.Regular ∧ ¬ now < haven.latest
  | .counted _ => True

def pass (promise : Promise) : Regime (Pass.interface interface) Haven where
  allows := promise.Allows
  after := Haven.after

def remote (promise : Promise) : Regime interface Haven :=
  promise.pass.pull Pass.Call.remote fun _ answer => answer

def authentication (promise : Promise) : Regime Authentication.interface Unit where
  allows _
    | .asked call answer => promise.tells call answer
    | .lost _ => False
    | .read _ => True
    | .counted _ => True
  after _ _ := ()

theorem can_read (promise : Promise) (hregular : haven.latest.Regular) :
    ∃ now, promise.Allows haven (.read now) := by
  refine ⟨haven.latest, hregular, fun hsooner => ?_⟩
  rcases hsooner with hsooner | ⟨-, hsooner⟩
  · exact Int.lt_irrefl _ hsooner
  · exact Nat.lt_irrefl _ hsooner

end Promise

variable {promise : Promise} {haven : Haven} {resource copy : Credentials}

/-- However the surroundings tell of the credentials of the controller, there is a token in them. -/
def Promise.Resolves (promise : Promise) (resource : Credentials) : Prop :=
  ∀ copy : Credentials, ((Authentication.resolve resource >>= fun login =>
    Work.ofExcept login.token) copy).Under promise.authentication
      (fun _ _ result => ∃ apiToken, result = .ok apiToken) ()

def Haven.Waited (haven after : Haven) : Prop :=
  ∃ now : Instant, now.Regular ∧ after = { haven with latest := now }

theorem under_told {script : Script Authentication.interface σ α} {ends : σ → α → Prop}
    (hunder : script.Under promise.authentication (fun _ => ends) ())
    (hregular : haven.latest.Regular) :
    script.Under (promise.remote.pull Call.authentication fun _ answer => answer)
      (fun after held value => ends held value ∧ haven.Waited after) haven := by
  induction script generalizing haven with
  | done held value => exact ⟨hunder, haven.latest, hregular, rfl⟩
  | ask held call resume ih =>
      exact ⟨hunder.1, fun answer hallowed => ih answer (hunder.2 answer hallowed) hregular⟩
  | clock resume ih =>
      refine ⟨promise.can_read hregular, fun now hallowed => ?_⟩
      apply (ih now (hunder.2 now trivial) hallowed.1).imp
      rintro after held value ⟨hknown, later, hregular, rfl⟩
      exact ⟨hknown, later, hregular, rfl⟩
  | count event next ih => exact ⟨trivial, ih hunder.2 hregular⟩

theorem under_connect (hresolves : promise.Resolves resource) (hregular : haven.latest.Regular) :
    (connect resource).Under promise.remote (Work.Succeeds fun after copy found =>
      found = client ∧ copy = resource ∧ haven.Waited after) haven := by
  have hconnected : (connect resource).Under promise.remote (fun after _ result =>
      (∃ found, result = .ok found) ∧ haven.Waited after) haven := by
    refine Work.under_held_then (Work.under_bind.mpr (Work.under_bind.mpr ?_))
    refine Work.under_attempt.mpr (Script.under_through (fun _ _ => rfl) ?_)
    apply (under_told (hresolves resource) hregular).imp
    rintro after copy _ ⟨⟨apiToken, rfl⟩, hwaited⟩
    exact ⟨⟨(), trivial⟩, fun _ _ => ⟨⟨client, rfl⟩, hwaited⟩⟩
  apply (hconnected.and_asks connect_asks).imp
  rintro after copy _ ⟨⟨⟨found, rfl⟩, hwaited⟩, hsame, -, hknown⟩
  exact ⟨hknown found rfl, hsame, hwaited⟩

theorem under_enter {ends : Haven → Credentials → Pass.Observation → Prop}
    (hnamed : resource.name ≠ "") (hlive : resource.isDeleting = false)
    (hcomplete : resource.createIncomplete = false) (hresolves : promise.Resolves resource)
    (hregular : haven.latest.Regular)
    (hobserves : ∀ waited, haven.Waited waited →
      (observe resource).Under promise.remote (Work.Succeeds ends) waited) :
    (Pass.enter connector resource).Under promise.pass (Work.Succeeds fun after copy found =>
      ∃ observation, found = some (client, observation) ∧ ends after copy observation) haven := by
  apply Work.under_held_then
  rw [if_neg (by simpa using hnamed), if_neg (by simp [hlive]), if_neg (by simp [hcomplete])]
  have hconnected := under_connect hresolves hregular
  refine Work.under_andThen (Script.under_through (fun _ _ => rfl) hconnected) ?_
  rintro waited copy found ⟨rfl, rfl, hlater⟩
  refine Work.under_andThen (Script.under_through (fun _ _ => rfl) (hobserves waited hlater)) ?_
  exact fun after copy observation hknown => ⟨observation, rfl, hknown⟩

theorem under_updateAnnotations {changes : Dictionary (Option String)}
    {ends : Haven → Credentials → Except Fault Unit → Prop}
    (hfollows : ends { haven with stored := haven.stored.patchAnnotations changes } copy (.ok ())) :
    (Pass.updateAnnotations changes copy : Script (Pass.interface interface) _ _).Under
      promise.pass ends haven :=
  Work.under_held_then (Work.under_ask_known (fun _ => Iff.rfl) hfollows)

theorem under_record {changes : Dictionary (Option String)} {attempts : Nat}
    {ends : Haven → Credentials → Except Fault Unit → Prop}
    (hfollows : ends { haven with stored := haven.stored.patchAnnotations changes } copy (.ok ())) :
    (Pass.record attempts changes copy : Script (Pass.interface interface) _ _).Under
      promise.pass ends haven := by
  rw [Pass.record]
  cases attempts - 1 with
  | zero => exact under_updateAnnotations hfollows
  | succ more =>
      exact Work.under_bind.mpr (Work.under_attempt.mpr (under_updateAnnotations hfollows))

theorem under_finish {reason : String} {after : Time.Span} (hregular : haven.latest.Regular) :
    (Pass.finish reason after copy : Script (Pass.interface interface) _ _).Under promise.pass
      (Work.Succeeds fun finished held action => action = .requeue after ∧
        ∃ now : Instant, now.Regular ∧ held = copy.setCondition (.reconcileSuccess now) ∧
          finished =
            { haven with stored := { haven.stored with status := held.status }, latest := now })
      haven := by
  apply Work.under_bind.mpr
  refine Work.under_now_then (promise.can_read hregular) fun now hallowed => ?_
  apply Work.under_bind.mpr
  refine Work.under_held_then (Work.under_ask_known (fun _ => Iff.rfl) ?_)
  exact ⟨trivial, rfl, now, hallowed.1, rfl, rfl⟩

end Issuance

end BucketKeys
