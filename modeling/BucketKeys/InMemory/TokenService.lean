import BucketKeys.Dictionary
import BucketKeys.TokenApi.Failure
import BucketKeys.TokenApi.Types

/-!
A token service in memory. It forgets the value of a token once it has told it.
-/

namespace BucketKeys.InMemory

open TokenApi

structure TokenService where
  catalog : List PermissionGroup
  tokens : Dictionary Token
  /-- Tokens to hand out before any are made up. -/
  upcoming : List Token
  /-- How many tokens were handed out. -/
  issued : Nat
  listFailure : Option Failure
  createFailure : Option Failure
  getFailure : Option Failure
  deleteFailure : Option Failure
  deriving Repr

namespace TokenService

def withCatalog (catalog : List PermissionGroup) : TokenService :=
  ⟨catalog, {}, [], 0, none, none, none, none⟩

def withTokens (tokens : List Token) (service : TokenService) : TokenService :=
  { service with tokens := .ofList (tokens.map fun token => (token.id, token)) }

def unknown : Failure :=
  .ofResponse 404 ["Could not find token"]

def listPermissionGroups (service : TokenService) : Except Failure (List PermissionGroup) :=
  match service.listFailure with
  | some failure => .error failure
  | none => .ok service.catalog

def numbered (number : Nat) (name : String) : Token where
  id := "tok-" ++ Text.decimal number
  name := some name
  status := some "active"
  issuedOn := Time.Rfc3339.read? "2024-05-01T12:00:00Z"
  value := some ("secret-value-" ++ Text.decimal number)

def remember (token : Token) (service : TokenService) : TokenService :=
  { service with tokens := service.tokens.insert token.id { token with value := none } }

def createToken (request : TokenRequest) (service : TokenService) :
    Except Failure Token × TokenService :=
  match service.createFailure with
  | some failure => (.error failure, service)
  | none =>
    let service := { service with issued := service.issued + 1 }
    match service.upcoming with
    | token :: rest => (.ok token, { service with upcoming := rest }.remember token)
    | [] =>
      let token := numbered service.issued request.name
      (.ok token, service.remember token)

def getToken (id : String) (service : TokenService) : Except Failure Token :=
  match service.getFailure, service.tokens.get? id with
  | some failure, _ => .error failure
  | none, some token => .ok token
  | none, none => .error unknown

def deleteToken (id : String) (service : TokenService) : Except Failure Unit × TokenService :=
  match service.deleteFailure with
  | some failure => (.error failure, service)
  | none =>
    if service.tokens.contains id then
      (.ok (), { service with tokens := service.tokens.erase id })
    else (.error unknown, service)

end TokenService

end BucketKeys.InMemory
