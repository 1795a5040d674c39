import BucketKeys.Proofs.Issuance.Protocol

/-!
What the moments of a pass say: which tokens were looked for, created and revoked, what was
published, and which finalizers were written.
-/

namespace BucketKeys.Issuance

open TokenApi

abbrev Act := Moment (Pass.interface interface)

namespace Act

@[match_pattern] abbrev lookedUp (id : String) (answer : Except Failure Token) : Act :=
  .asked (Pass.Call.remote (Call.getToken id)) answer

@[match_pattern] abbrev listed (answer : Except Failure (List PermissionGroup)) : Act :=
  .asked (Pass.Call.remote Call.listPermissionGroups) answer

@[match_pattern] abbrev requested (request : TokenRequest) (answer : Except Failure Token) : Act :=
  .asked (Pass.Call.remote (Call.createToken request)) answer

@[match_pattern] abbrev revoked (id : String) (answer : Except Failure Unit) : Act :=
  .asked (Pass.Call.remote (Call.deleteToken id)) answer

@[match_pattern] abbrev annotated (copy : Credentials) (changes : Dictionary (Option String))
    (answer : Except Fault Unit) : Act :=
  .asked (Pass.Call.updateAnnotations copy changes) answer

@[match_pattern] abbrev finalized (copy : Credentials) (finalizers : List String)
    (answer : Except Fault Unit) : Act :=
  .asked (Pass.Call.updateFinalizers copy finalizers) answer

@[match_pattern] abbrev reported (copy : Credentials) (answer : Except Fault Unit) : Act :=
  .asked (Pass.Call.updateStatus copy) answer

@[match_pattern] abbrev published (copy : Credentials) (details : ConnectionDetails)
    (answer : Except Fault Unit) : Act :=
  .asked (Pass.Call.publish copy details) answer

end Act

def found? : Act → Option String
  | .lookedUp id (.ok _) => some id
  | _ => none

def missing? : Act → Option String
  | .lookedUp id (.error failure) => if failure.isNotFound then some id else none
  | _ => none

def created? : Act → Option Token
  | .requested _ (.ok token) => some token
  | _ => none

def revoking? (act : Act) : Option String :=
  match act.call? with
  | some (.remote (.deleteToken id)) => some id
  | _ => none

def finalizing? (act : Act) : Option (List String) :=
  match act.call? with
  | some (.updateFinalizers _ finalizers) => some finalizers
  | _ => none

def accepted? : Act → Option ConnectionDetails
  | .published _ details (.ok ()) => some details
  | _ => none

def found (acts : List Act) : List String := acts.filterMap found?

def missing (acts : List Act) : List String := acts.filterMap missing?

def created (acts : List Act) : List Token := acts.filterMap created?

def revoking (acts : List Act) : List String := acts.filterMap revoking?

def accepted (acts : List Act) : List ConnectionDetails := acts.filterMap accepted?

end BucketKeys.Issuance
