import BucketKeys.Proofs.Issuance.Rehearsal
import BucketKeys.Proofs.Secrecy.Twins

/-!
Two runs of the service that are treated fairly look the same, whatever its token is and whatever
the values of the tokens are that it gets.
-/

namespace BucketKeys

namespace Service

/-- All that is written, recorded, asked, returned and counted is the same in both runs, but for
the token in the requests and the secrets in what is published; and so is the end of the runs. -/
theorem secrets_unseen (options : PassOptions) (rounds : Nat) (retries : Retries)
    (resource : Credentials) {moments instead : List (Moment (interface Issuance.interface))}
    {rest left : Option (Script (interface Issuance.interface) Credentials Retries)}
    (reached : (run Issuance.connector options rounds retries resource).Reaches moments rest)
    (reaches : (run Issuance.connector options rounds retries resource).Reaches instead left)
    (fair : likeness.Fair moments instead) :
    moments.map likeness.glimpse = instead.map likeness.glimpse ∧
      ∀ held remaining, rest = some (.done held remaining) → left =
          some (.done held remaining) := by
  obtain ⟨hsame, htwins⟩ := (run_twins options rounds retries resource).reaches fair reached reaches
  refine ⟨hsame, fun held remaining hended => ?_⟩
  subst hended
  cases htwins with
  | some htwins =>
      cases htwins with
      | done halike =>
          subst halike
          rfl

end Service

namespace Issuance

open Authentication (Disguised)
open TokenApi

def disguised (known : Option Token) (fresh : Token) (data : String) (value : Option String) :
    (call : Pass.Call interface) → Pass.Answer call
  | .remote (.authentication (.variable _)) => Except.ok data
  | .remote (.createToken _) => Except.ok { fresh with value := value }
  | call => obliging known fresh call

theorem eq_or_authenticate_of_shown {call other : Call} (hsame : shown call = shown other) :
    call = other ∨ ∃ apiToken instead,
      call = .authenticate apiToken ∧ other = .authenticate instead := by
  cases call <;> cases other <;> simp_all [shown]

theorem disguised_alike {known : Option Token} {fresh : Token} {data : String}
    {value : Option String}
    (hhidden : Disguised (Text.encode "\x7b\"api_token\":\"secret\"\x7d") (Text.encode data))
    {call other : Pass.Call interface} (hsame : Pass.shown call = Pass.shown other) :
    Pass.alike call other (obliging known fresh call)
      (disguised known fresh data value other) := by
  cases call with
  | remote call =>
      cases other with
      | remote other =>
          rcases eq_or_authenticate_of_shown (Pass.Call.remote.inj hsame) with
              rfl | ⟨_, _, rfl, rfl⟩
          · cases call with
            | authentication call =>
                cases call with
                | «variable» name => exact .ok hhidden
                | providerConfig name => rfl
                | track config consumer => rfl
                | secretKey selector => exact .error _
                | file path => exact .error _
            | authenticate apiToken => trivial
            | listPermissionGroups => rfl
            | createToken request => exact .ok rfl
            | getToken id => rfl
            | deleteToken id => rfl
          · trivial
      | _ => cases hsame
  | _ =>
      cases other <;> first | rfl | trivial

/-- Rounds over a ticking clock; what is due next is always the one resource. -/
def serving (epoch : Int) (answer : (call : Pass.Call interface) → Pass.Answer call)
    (due : Credentials) : Surroundings (Service.interface interface) Nat where
  now := (ticking epoch answer).now
  count := (ticking epoch answer).count
  answer
    | .round call, ticks => (ticking epoch answer).answer call ticks
    | .settled .., ticks => (due, ticks + 1)

theorem serving_alike {first second : (call : Pass.Call interface) → Pass.Answer call}
    (halike : ∀ call other, Pass.shown call = Pass.shown other →
      Pass.alike call other (first call) (second other)) (epoch : Int) (due : Credentials) :
    (serving epoch first due).Alike Service.likeness (serving epoch second due) where
  now := rfl
  count := rfl
  answer call other ticks same := by
    cases call with
    | settled resource outcome next =>
        cases other with
        | settled instead ended later => exact ⟨rfl, rfl⟩
        | round other => cases same
    | round call =>
        cases other with
        | settled instead ended later => cases same
        | round other =>
            have same := Service.Call.round.inj same
            cases call with
            | admission =>
                cases other with
                | admission => exact ⟨rfl, rfl⟩
                | _ => cases same
            | within deadline call =>
                cases other with
                | within limit other =>
                    have same := (Round.Call.within.inj same).2
                    exact ⟨.some (halike call other same), rfl⟩
                | _ => cases same
            | recordFailure resource =>
                cases other with
                | recordFailure instead => exact ⟨rfl, rfl⟩
                | _ => cases same

def bearer? : Moment (Service.interface interface) → Option String
  | .asked (.round (.within _ (.remote (.authenticate apiToken)))) _ => some apiToken
  | _ => none

def bound : Credentials :=
  (applicant.setExternalName "token").setFinalizers [Bookkeeping.finalizer]

def plain : (call : Pass.Call interface) → Pass.Answer call :=
  obliging (some (tokenNamed "token")) (tokenNamed "token")

def masked : (call : Pass.Call interface) → Pass.Answer call :=
  disguised (some (tokenNamed "token")) (tokenNamed "token")
    "\x7b\"api_token\":\"another\"\x7d" none

theorem plain_alike_masked {call other : Pass.Call interface}
    (hsame : Pass.shown call = Pass.shown other) :
    Pass.alike call other (plain call) (masked other) := by
  refine disguised_alike (@Disguised.token _ _ {} "secret" "another" ?_ ?_ ?_ ?_) hsame
  · decide
  · decide
  · decide +kernel
  · decide +kernel

theorem secrets_unseen_masked :
    ∃ moments instead rest left,
      (Service.run connector habits 2 {} applicant).Reaches moments rest ∧
      (Service.run connector habits 2 {} applicant).Reaches instead left ∧
      Service.likeness.Fair moments instead ∧
      moments.filterMap bearer? = ["secret", "secret"] ∧
      instead.filterMap bearer? = ["another", "another"] ∧
      moments.map Service.likeness.glimpse = instead.map Service.likeness.glimpse ∧
        ∀ held remaining,
          rest = some (.done held remaining) → left = some (.done held remaining) := by
  have halike := serving_alike (fun _ _ => plain_alike_masked) 1717200000 bound
  have hfair := (Service.run_twins habits 2 {} applicant).fair halike .start 0
  have hreached : (Service.run connector habits 2 {} applicant).Reaches _ _ :=
    Script.reaches_recite (serving 1717200000 plain bound) .here 0
  have hreaches : (Service.run connector habits 2 {} applicant).Reaches _ _ :=
    Script.reaches_recite (serving 1717200000 masked bound) .here 0
  exact ⟨_, _, _, _, hreached, hreaches, hfair, by decide +kernel, by decide +kernel,
    Service.secrets_unseen habits 2 {} applicant hreached hreaches hfair⟩

/-- Credentials with a byte in the address that is no character. -/
def misspelled (apiToken : String) : Bytes :=
  Text.encode ("\x7b\"api_token\":\"" ++ apiToken ++ "\",\"email\":\"") ++
    0xFF :: Text.encode "\"\x7d"

def exposed (apiToken : String) : (call : Pass.Call interface) → Pass.Answer call
  | .remote (.authentication (.variable name)) =>
    Environment.read (.ofList [("API_TOKEN", misspelled apiToken)]) name
  | call => plain call

theorem exposed_of_ne (apiToken : String) {call : Pass.Call interface}
    (hcall : ∀ name, call ≠ .remote (.authentication (.variable name))) :
    exposed apiToken call = plain call := by
  cases call with
  | remote call =>
      cases call with
      | authentication call =>
          cases call with
          | «variable» name => exact absurd rfl (hcall name)
          | _ => rfl
      | _ => rfl
  | _ => rfl

def message? : Glimpse (Service.Call interface) → Option String
  | .asked (.round (.recordFailure resource)) =>
    (Condition.find? Condition.synced resource.conditions).bind Condition.message
  | .asked (.settled _ (.failed fault) _) => some fault.message
  | _ => none

def quoting (apiToken : String) : String :=
  "cannot connect to Cloudflare: cannot extract credentials: " ++
    "cannot read environment variable API_TOKEN: environment variable was not valid unicode: " ++
    "\"\x7b\\\"api_token\\\":\\\"" ++ apiToken ++ "\\\",\\\"email\\\":\\\"\\xFF\\\"\x7d\""

/-- The token is quoted in the messages when the variable that holds it is no text. -/
theorem misspelled_credentials_quoted :
    (∀ call, (∀ name, call ≠ .remote (.authentication (.variable name))) →
      exposed "secret" call = exposed "another" call) ∧
    ∃ moments instead rest left,
      (Service.run connector habits 1 {} applicant).Reaches moments rest ∧
      (Service.run connector habits 1 {} applicant).Reaches instead left ∧
      (moments.map Service.likeness.glimpse).filterMap message? =
        [quoting "secret", quoting "secret"] ∧
      (instead.map Service.likeness.glimpse).filterMap message? =
        [quoting "another", quoting "another"] ∧
      moments.map Service.likeness.glimpse ≠ instead.map Service.likeness.glimpse := by
  have hreached : (Service.run connector habits 1 {} applicant).Reaches _ _ :=
    Script.reaches_recite (serving 1717200000 (exposed "secret") applicant) .here 0
  have hreaches : (Service.run connector habits 1 {} applicant).Reaches _ _ :=
    Script.reaches_recite (serving 1717200000 (exposed "another") applicant) .here 0
  refine ⟨?_, _, _, _, _, hreached, hreaches, by decide +kernel, by decide +kernel, ?_⟩
  · intro call hcall
    exact (exposed_of_ne "secret" hcall).trans (exposed_of_ne "another" hcall).symm
  · intro hsame
    have hmessages := congrArg (List.filterMap message?) hsame
    revert hmessages
    decide +kernel

end Issuance

end BucketKeys
