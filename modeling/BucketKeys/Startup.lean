import BucketKeys.Metrics.Exporter
import BucketKeys.RateLimiter
import BucketKeys.Settings.Basic
import BucketKeys.TokenApi.BaseUrl

/-!
Starting the process: read the settings, register the metrics, start the probe server, find the
cluster, and find the token service, in this order. What was done before a fault stays done.
-/

namespace BucketKeys

inductive StartupFault where
  | settings (fault : SettingsFault)
  | metricsRegistered
  /-- The probe server was not up within the allowed time. -/
  | probesLate (seconds : Nat)
  | clusterUnknown
  | baseUrl (fault : TokenApi.BaseUrlFault)
  deriving DecidableEq, Repr

namespace StartupFault

def message : StartupFault → String
  | settings fault => fault.message
  | metricsRegistered => Metrics.Exporter.refusal
  | probesLate seconds =>
    "HTTP server failed to become ready within " ++ Text.decimal seconds ++ " seconds"
  | clusterUnknown => "Failed to create Kubernetes client"
  | baseUrl fault => fault.message

end StartupFault

structure Controllers where
  settings : Settings
  limiter : RateLimiter Float
  tokenService : Url.Rooted

namespace Controllers

/-- All that can be found out before the metrics are registered. -/
def prepare (environment : Environment) (overrides : Overrides) : Except StartupFault Settings :=
  match Settings.load environment overrides with
  | .ok settings => .ok settings
  | .error fault => .error (.settings fault)

def assemble (settings : Settings) (clusterKnown : Bool) (now : Time.Instant) :
    Except StartupFault Controllers :=
  if !clusterKnown then .error .clusterUnknown
  else
    match TokenApi.BaseUrl.read settings.apiBaseUrl with
    | .error fault => .error (.baseUrl fault)
    | .ok url => .ok ⟨settings, .full settings.maxReconcileRate settings.burst now, url⟩

/-- The probe server takes some time to come up, so it is late if it may take none. -/
def start (environment : Environment) (overrides : Overrides) (clusterKnown : Bool)
    (now : Time.Instant) (exporter : Metrics.Exporter) :
    Except StartupFault Controllers × Metrics.Exporter :=
  match prepare environment overrides with
  | .error fault => (.error fault, exporter)
  | .ok settings =>
    match exporter.register? with
    | none => (.error .metricsRegistered, exporter)
    | some exporter =>
      let seconds := (ServerSettings.ofEnvironment environment).startupTimeoutSeconds
      if seconds = 0 then (.error (.probesLate seconds), exporter)
      else (assemble settings clusterKnown now, exporter)

end Controllers

end BucketKeys
