import BucketKeys.Settings.Environment
import BucketKeys.Settings.Interval

/-!
Settings of the process: built-in values, replaced by the environment, replaced by the command
line. A duration that cannot be read is refused; a number that cannot be read is passed over.
-/

namespace BucketKeys.Settings

open Time (Span)

def defaultPollText : String := "1m"

def defaultTimeoutSeconds : Nat := 180

def defaultRate : Nat := 10

def shortWaitSeconds : Nat := 30

def recordAttempts : Nat := 3

def defaultBaseUrl : String := "https://api.cloudflare.com/client/v4"

def requestTimeoutSeconds : Nat := 30

def defaultMetricsPort : Nat := 8080

def defaultStartupSeconds : Nat := 10

def defaultServerPollMillis : Nat := 50

end Settings

structure Settings where
  pollInterval : Time.Span
  reconcileTimeout : Time.Span
  maxReconcileRate : Nat
  apiBaseUrl : String
  deriving DecidableEq, Repr

inductive SettingsFault where
  | pollInterval (fault : Settings.IntervalFault)
  | reconcileTimeout (fault : Settings.IntervalFault)
  deriving DecidableEq, Repr

structure Overrides where
  poll : Option String
  maxReconcileRate : Option Nat
  deriving DecidableEq, Repr

namespace SettingsFault

def message : SettingsFault → String
  | pollInterval fault => "Invalid poll interval: " ++ fault.message
  | reconcileTimeout fault => "Invalid RECONCILE_TIMEOUT: " ++ fault.message

end SettingsFault

namespace Settings

def standard : Settings where
  pollInterval := .ofSeconds 60
  reconcileTimeout := .ofSeconds defaultTimeoutSeconds
  maxReconcileRate := defaultRate
  apiBaseUrl := defaultBaseUrl

def withPollInterval (text : String) (settings : Settings) : Except SettingsFault Settings :=
  match Interval.read text with
  | .ok span => .ok { settings with pollInterval := span }
  | .error fault => .error (.pollInterval fault)

def withTimeout (text : Option String) (settings : Settings) : Except SettingsFault Settings :=
  match text with
  | none => .ok settings
  | some text =>
    match Interval.read text with
    | .ok span => .ok { settings with reconcileTimeout := span }
    | .error fault => .error (.reconcileTimeout fault)

def withRate (rate : Nat) (settings : Settings) : Settings :=
  { settings with maxReconcileRate := max rate 1 }

/-- White space around the URL and slashes at its end do not count. -/
def withBaseUrl (text : Option String) (settings : Settings) : Settings :=
  let trimmed := Text.trimChars ((text.getD "").toList)
  if trimmed.isEmpty then settings
  else
    { settings with
      apiBaseUrl := String.ofList (trimmed.reverse.dropWhile (· = '/')).reverse }

def ofEnvironment (environment : Environment) : Except SettingsFault Settings := do
  let settings ← standard.withPollInterval ((environment.text? "POLL_INTERVAL").getD defaultPollText)
  let settings ← settings.withTimeout (environment.text? "RECONCILE_TIMEOUT")
  let rate := (environment.number? "MAX_RECONCILE_RATE" UInt16.size).getD settings.maxReconcileRate
  return (settings.withRate rate).withBaseUrl (environment.text? "CLOUDFLARE_API_BASE_URL")

def withOverrides (overrides : Overrides) (settings : Settings) : Except SettingsFault Settings := do
  let settings ← match overrides.poll with
    | some poll => settings.withPollInterval poll
    | none => .ok settings
  return match overrides.maxReconcileRate with
    | some rate => settings.withRate rate
    | none => settings

def load (environment : Environment) (overrides : Overrides) : Except SettingsFault Settings := do
  (← ofEnvironment environment).withOverrides overrides

def burst (settings : Settings) : Nat :=
  settings.maxReconcileRate * 10

end Settings

structure ServerSettings where
  metricsPort : Nat
  startupTimeoutSeconds : Nat
  pollIntervalMillis : Nat
  deriving DecidableEq, Repr

namespace ServerSettings

def ofEnvironment (environment : Environment) : ServerSettings where
  metricsPort := (environment.number? "METRICS_PORT" UInt16.size).getD Settings.defaultMetricsPort
  startupTimeoutSeconds :=
    (environment.number? "SERVER_STARTUP_TIMEOUT_SECS" UInt64.size).getD
      Settings.defaultStartupSeconds
  pollIntervalMillis :=
    (environment.number? "SERVER_POLL_INTERVAL_MS" UInt64.size).getD
      Settings.defaultServerPollMillis

end ServerSettings

structure PassOptions where
  pollInterval : Time.Span
  timeout : Time.Span
  shortWait : Time.Span
  recordAttempts : Nat
  deriving DecidableEq, Repr

namespace PassOptions

def ofSettings (settings : Settings) : PassOptions where
  pollInterval := settings.pollInterval
  timeout := settings.reconcileTimeout
  shortWait := .ofSeconds Settings.shortWaitSeconds
  recordAttempts := Settings.recordAttempts

end PassOptions

end BucketKeys
