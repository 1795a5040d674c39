import BucketKeys.Pass.Calls

/-!
Clients of the remote side of a resource, and how a pass gets one.
-/

namespace BucketKeys.Pass

structure Observation where
  resourceExists : Bool
  upToDate : Bool
  /-- Details that every observation can tell. -/
  details : ConnectionDetails
  deriving DecidableEq, Repr

namespace Observation

def absent : Observation := ⟨false, false, {}⟩

def current : Observation := ⟨true, true, {}⟩

end Observation

/-- The operations on the remote side during one pass. Observing and creating may change the
resource at hand; creating has to record the external name on it. -/
structure Client (R : Interface) where
  observe : Work R Credentials Observation
  create : Work R Credentials ConnectionDetails
  update : Work R Credentials ConnectionDetails
  /-- A missing remote resource is no failure. -/
  delete : Work R Credentials Unit
  disconnect : Work R Credentials Unit

/-- Finds the credentials for a pass and makes its client. -/
structure Connector (R : Interface) where
  connect : Work R Credentials (Client R)

end BucketKeys.Pass
