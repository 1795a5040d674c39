import BucketKeys.Metrics.Exporter
import BucketKeys.Url.Target

/-!
The probe server: whether the process lives, whether it is ready, and its metrics.
-/

namespace BucketKeys.Probe

structure Answer where
  status : Nat
  body : String
  deriving DecidableEq, Repr

def page? (ready : Bool) (metrics : String) (path : String) : Option Answer :=
  if path = "/metrics" then some ⟨200, metrics⟩
  else if path = "/healthz" then some ⟨200, "ok"⟩
  else if path = "/readyz" then some (if ready then ⟨200, "ready"⟩ else ⟨503, "not ready"⟩)
  else none

/-- The path of a target, which may name the host as well. -/
def pathOf (target : String) : String :=
  String.ofList ((Url.Target.withoutHost target.toList).takeWhile (!Url.Target.endsPath ·))

/-- Pages can only be read; reading only the head of one leaves out its body. -/
def respond (ready : Bool) (metrics : String) (method target : String) : Answer :=
  match page? ready metrics (pathOf target) with
  | none => ⟨404, ""⟩
  | some page =>
    if method = "GET" then page
    else if method = "HEAD" then { page with body := "" }
    else ⟨405, ""⟩

end BucketKeys.Probe
