import BucketKeys.Issuance.Client
import BucketKeys.Proofs.Pass.Accounts

/-!
The client of the token service leaves the counting to the pass, and disconnects at once.
-/

namespace BucketKeys

open Work (Quiet)

namespace Authentication

theorem quiet_extract (credentials : ProviderCredentials) :
    Quiet (extract credentials : Work interface σ Bytes) := by
  unfold extract
  split
  · exact .fail _
  · split
    · exact .fail _
    · exact (Quiet.ask _).bind .ofExcept
  · split
    · exact .fail _
    · refine (Quiet.ask _).bind fun answer => ?_
      split
      · exact .pure _
      · exact .fail _
  · split
    · exact .fail _
    · refine (Quiet.ask _).bind fun answer => ?_
      split
      · exact .pure _
      · exact .fail _

theorem quiet_resolve (resource : Credentials) :
    Quiet (resolve resource : Work interface σ Login) := by
  unfold resolve
  split
  · exact .fail _
  · refine (Quiet.ask _).bind fun config => (Quiet.ofExcept _).bind fun config =>
      (Quiet.ask _).bind fun tracked => ?_
    split
    · exact .fail _
    · exact (quiet_extract _).bind fun data => .ofExcept _

end Authentication

namespace Issuance

theorem quiet_observe : Quiet observe := by
  refine Quiet.held.bind fun resource => ?_
  split
  · exact .pure _
  · refine (Quiet.ask _).bind fun answer => ?_
    split
    · split
      · exact .pure _
      · exact .fail _
    · exact (Quiet.modify _).bind fun _ => (Quiet.now.bind fun _ => .modify _).bind fun _ => .pure _

theorem quiet_create : Quiet create := by
  refine Quiet.held.bind fun resource => Quiet.bind ?_ fun groups =>
    (Quiet.ask _).bind fun answer => ?_
  · refine (Quiet.ask _).bind fun answer => ?_
    split
    · exact .fail _
    · dsimp only
      split
      · exact .fail _
      · exact .pure _
  · split
    · exact .fail _
    · exact (Quiet.modify _).bind fun _ => .pure _

theorem quiet_delete : Quiet delete := by
  refine Quiet.held.bind fun resource => ?_
  split
  · exact .pure _
  · refine (Quiet.ask _).bind fun answer => ?_
    split
    · exact .pure _
    · split
      · exact .pure _
      · exact .fail _

theorem client_silent : client.Silent :=
  ⟨quiet_observe, quiet_create, .pure _, quiet_delete, .pure _⟩

theorem quiet_authenticated {work : Work Authentication.interface Credentials α}
    (hquiet : Quiet work) : Quiet (authenticated work) := by
  refine hquiet.through.attempt.bind fun result => ?_
  cases result with
  | ok value => exact .pure value
  | error fault => exact .fail _

theorem connector_silent : connector.Silent := by
  intro held
  have login := quiet_authenticated
    ((Authentication.quiet_resolve held).bind fun login => .ofExcept login.token) held
  change Script.Silent _ ((authenticated _ >>= _) held)
  refine Work.silent_andThen login (fun held apiToken _ => ?_) (by rintro _ _ _ _ ⟨⟩)
  rintro _ _ ⟨⟩
  exact client_silent

theorem connector_leaves : connector.Leaves False := by
  intro held
  change Script.Asks _ _ ((authenticated _ >>= _) held)
  refine Work.asks_andThen (Script.asks_anything _) (fun held apiToken _ => ⟨trivial, ?_⟩)
    (by rintro _ _ _ _ ⟨⟩)
  rintro _ _ ⟨⟩
  exact fun _ => trivial

end Issuance

end BucketKeys
