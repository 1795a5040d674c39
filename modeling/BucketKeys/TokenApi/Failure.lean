import BucketKeys.Text.Decimal

/-!
Failed calls of the token service. A call is classified once, by its whole message and its HTTP
status, and callers match on the classification.
-/

namespace BucketKeys.TokenApi

inductive FailureKind where
  | notFound
  | transient
  /-- The request or its credentials were rejected. -/
  | fatal
  deriving DecidableEq, Repr

structure Failure where
  kind : FailureKind
  message : String
  deriving DecidableEq, Repr

namespace FailureKind

def label : FailureKind → String
  | notFound => "not_found"
  | transient => "transient"
  | fatal => "fatal"

end FailureKind

namespace Failure

def notFoundMessages : List String :=
  ["HTTP status 404: Could not find token", "HTTP status 404", "could not find token"]

def classify (status : Option Nat) (message : String) : Failure :=
  let kind : FailureKind :=
    if notFoundMessages.contains message then .notFound
    else match status with
      | some 400 => .fatal
      | some 401 => .fatal
      | some 403 => .fatal
      | _ => .transient
  ⟨kind, message⟩

/-- The failure told by a response: its status, and its messages if it has any. -/
def ofResponse (status : Nat) (messages : List String) : Failure :=
  let text := "HTTP status " ++ Text.decimal status
  classify (some status)
    (if messages.isEmpty then text else text ++ ": " ++ ", ".intercalate messages)

def isNotFound (failure : Failure) : Bool :=
  failure.kind == .notFound

@[simp] theorem message_classify (status : Option Nat) (message : String) :
    (classify status message).message = message := rfl

end Failure

end BucketKeys.TokenApi
