import BucketKeys.Issuance.Client
import BucketKeys.Pass.Basic
import BucketKeys.Proofs.Script.Protocol

/-!
The protocol of a pass over one resource: the stages from the first question to the delivery of a
token, or to its revocation, and what may be asked at each of them.
-/

namespace BucketKeys

def Credentials.Open (resource : Credentials) : Prop :=
  resource.name.isEmpty = false ∧
    (resource.isDeleting = true → resource.spec.deletionPolicy = .delete) ∧
    (resource.isDeleting = false → resource.createIncomplete = false)

namespace Issuance

open Bookkeeping TokenApi

inductive Stage where
  | start
  | connected
  /-- The external name names a token. -/
  | present
  /-- The external name names no token. -/
  | vacant
  /-- As vacant, and the finalizer was put on the resource. -/
  | held
  | announcing (now : Time.Instant)
  | announced
  | chosen (groups : List GroupReference)
  | refused
  | failing (now : Time.Instant)
  | created (token : Token)
  | recording (token : Token) (now : Time.Instant)
  | recorded (token : Token)
  | delivered (token : Token)
  | revoked
  | released
  /-- Nothing is left but to record a failure. -/
  | spent

namespace Stage

/-- No token belongs to the resource as far as the pass has seen. -/
def isVacant (resource : Credentials) : Stage → Bool
  | vacant => true
  | connected => resource.externalName?.isNone
  | _ => false

def isHeld (resource : Credentials) : Stage → Bool
  | held => true
  | stage => stage.isVacant resource && resource.hasFinalizer

def Complete (resource : Credentials) : Stage → Prop
  | present => True
  | delivered _ => True
  | start => resource.isDeleting = true
  | connected => resource.isDeleting = true
  | vacant => resource.isDeleting = true
  | revoked => resource.isDeleting = true
  | released => resource.isDeleting = true
  | _ => False

/-- The token that the pass got and has not lost sight of. -/
def token? : Stage → Option Token
  | created token => some token
  | recording token _ => some token
  | recorded token => some token
  | delivered token => some token
  | _ => none

end Stage

def detailsOf (resource : Credentials) (token : Token) : ConnectionDetails :=
  connectionDetails token.id token.value resource.spec.forProvider.accountId

def recordedName (token : Token) : Option String :=
  (some token.id).filter (!·.isEmpty)

inductive Announcement : Stage → Dictionary (Option String) → Prop where
  | pending (now : Time.Instant) :
      Announcement (.announcing now)
        (.singleton pendingKey (some (Time.Rfc3339.stamp now)))
  | failed (now : Time.Instant) :
      Announcement (.failing now)
        (.singleton failedKey (some (Time.Rfc3339.stamp now)))
  | succeeded (token : Token) (now : Time.Instant) :
      Announcement (.recording token now)
        (Pass.successAnnotations (Time.Rfc3339.stamp now) (recordedName token))

inductive Custody (resource : Credentials) : Stage → List String → Prop where
  | taken {stage : Stage} (live : resource.isDeleting = false)
      (missing : resource.hasFinalizer = false)
      (observed : stage = .present ∨ stage.isVacant resource = true) :
      Custody resource stage resource.finalizersWith
  | orphaned (deleting : resource.isDeleting = true)
      (policy : resource.spec.deletionPolicy = .orphan) :
      Custody resource .start resource.finalizersWithout
  | released {stage : Stage} (deleting : resource.isDeleting = true)
      (gone : stage.isVacant resource = true) :
      Custody resource stage resource.finalizersWithout

inductive Inquiry (resource : Credentials) : Stage → Call → Prop where
  | authentication (call : Authentication.Call) : Inquiry resource .start (.authentication call)
  | authenticate (apiToken : String) : Inquiry resource .start (.authenticate apiToken)
  | getToken {id : String} (name : resource.externalName? = some id) :
      Inquiry resource .connected (.getToken id)
  | deleteToken {id : String} (deleting : resource.isDeleting = true)
      (name : resource.externalName? = some id) : Inquiry resource .present (.deleteToken id)
  | listPermissionGroups (live : resource.isDeleting = false) :
      Inquiry resource .announced .listPermissionGroups
  | createToken (live : resource.isDeleting = false) (groups : List GroupReference) :
      Inquiry resource (.chosen groups)
        (.createToken (tokenRequest resource.spec.forProvider groups))

def permits (resource : Credentials) (stage : Stage) : Pass.Call interface → Prop
  | .remote call => resource.Open ∧ Inquiry resource stage call
  | .updateAnnotations _ changes =>
      resource.isDeleting = false ∧ Announcement stage changes
  | .updateFinalizers _ finalizers => Custody resource stage finalizers
  | .updateStatus _ => True
  | .publish _ details =>
      resource.isDeleting = false ∧
        ∃ token, stage = .recorded token ∧ details = detailsOf resource token
  | .pause _ => True

def afterCatalog (permissions : List Permission) :
    Except Failure (List PermissionGroup) → Stage
  | .ok catalog =>
      let groups := selectGroups catalog permissions
      if groups.isEmpty then .refused else .chosen groups
  | .error _ => .refused

def afterCreation : Except Failure Token → Stage
  | .ok token => .created token
  | .error _ => .refused

def afterLook : Except Failure Token → Stage
  | .ok _ => .present
  | .error failure => if failure.isNotFound then .vacant else .spent

def afterRevocation : Except Failure Unit → Stage
  | .ok () => .revoked
  | .error failure => if failure.isNotFound then .revoked else .spent

def afterInquiry (resource : Credentials) (stage : Stage) : (call : Call) → Answer call → Stage
  | .authentication _, _ => stage
  | .authenticate _, _ => .connected
  | .listPermissionGroups, answer => afterCatalog resource.spec.forProvider.permissions answer
  | .createToken _, answer => afterCreation answer
  | .getToken _, answer => afterLook answer
  | .deleteToken _, answer => afterRevocation answer

/-- Only the announcement is not tried again. -/
def afterAnnouncement (stage : Stage) : Except Fault Unit → Stage
  | .ok () =>
      match stage with
      | .announcing _ => .announced
      | .recording token _ => .recorded token
      | stage => stage
  | .error _ =>
      match stage with
      | .announcing _ => .spent
      | stage => stage

def afterCustody (resource : Credentials) (stage : Stage) : Except Fault Unit → Stage
  | .ok () =>
      if resource.isDeleting then .released
      else
        match stage with
        | .present => .present
        | _ => .held
  | .error _ => .spent

def afterPublication (stage : Stage) : Except Fault Unit → Stage
  | .ok () =>
      match stage with
      | .recorded token => .delivered token
      | stage => stage
  | .error _ => .spent

def answered (resource : Credentials) (stage : Stage) :
    (call : Pass.Call interface) → Pass.Answer call → Stage
  | .remote call, answer => afterInquiry resource stage call answer
  | .updateAnnotations .., answer => afterAnnouncement stage answer
  | .updateFinalizers .., answer => afterCustody resource stage answer
  | .updateStatus _, _ => stage
  | .publish .., answer => afterPublication stage answer
  | .pause _, _ => stage

/-- The time of an annotation is read right before it is written. -/
def clockRead (resource : Credentials) (stage : Stage) (now : Time.Instant) : Stage :=
  match stage with
  | .refused => .failing now
  | .created token => .recording token now
  | stage =>
      if !resource.isDeleting && stage.isHeld resource then .announcing now else stage

def protocol (resource : Credentials) : Protocol (Pass.interface interface) Stage where
  permits := permits resource
  answered := answered resource
  read := clockRead resource
  cutOff := .spent

end Issuance

end BucketKeys
