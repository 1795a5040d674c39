import BucketKeys.InMemory.Session
import BucketKeys.Main
import BucketKeys.Probe
import BucketKeys.Proofs.Authentication.RoundTrip
import BucketKeys.Proofs.Cluster.Usages
import BucketKeys.Proofs.Course.Convergence
import BucketKeys.Proofs.Course.Copies
import BucketKeys.Proofs.Course.Finalizers
import BucketKeys.Proofs.Course.Revocation
import BucketKeys.Proofs.Issuance.Connection
import BucketKeys.Proofs.Issuance.Grant
import BucketKeys.Proofs.Issuance.Handover
import BucketKeys.Proofs.Issuance.Reports
import BucketKeys.Proofs.Pass.Attempts
import BucketKeys.Proofs.RateLimiter.Patience
import BucketKeys.Proofs.RateLimiter.Punctuality
import BucketKeys.Proofs.Resource.CreationTimes
import BucketKeys.Proofs.Resource.History
import BucketKeys.Proofs.Resource.RoundTrip
import BucketKeys.Proofs.Schema.Admission
import BucketKeys.Proofs.Secrecy.Runs
import BucketKeys.Proofs.Service.Conservation
import BucketKeys.Proofs.Service.Turn
import BucketKeys.Proofs.Settings.Precedence
import BucketKeys.Proofs.Time.Relaxed
import BucketKeys.Proofs.TokenApi.Counting
import BucketKeys.Proofs.TokenApi.Paths
import BucketKeys.Schema.Acceptance
