import BucketKeys.Settings.Basic

/-!
The command line of the controller. An option that is not given is taken from the environment, and
else has its built-in value; of an option that is given twice only one value can be meant.
-/

namespace BucketKeys

structure CommandLine where
  debug : Bool
  poll : String
  maxReconcileRate : Nat
  deriving DecidableEq, Repr

inductive CommandLineFault where
  | unexpected (argument : String)
  | valueMissing (option : String)
  | givenTwice (option : String)
  | invalidValue (option value : String)
  deriving DecidableEq, Repr

namespace CommandLineFault

def message : CommandLineFault → String
  | unexpected argument => "unexpected argument " ++ Text.Quoted.ofString argument
  | valueMissing option => "a value is required for " ++ option
  | givenTwice option => option ++ " cannot be used multiple times"
  | invalidValue option value =>
    "invalid value " ++ Text.Quoted.ofString value ++ " for " ++ option

end CommandLineFault

namespace CommandLine

structure Given where
  debug : Bool := false
  poll : Option String := none
  maxReconcileRate : Option String := none
  deriving DecidableEq, Repr

namespace Given

def setDebug (given : Given) : Except CommandLineFault Given :=
  if given.debug then .error (.givenTwice "--debug") else .ok { given with debug := true }

def setPoll (value : String) (given : Given) : Except CommandLineFault Given :=
  match given.poll with
  | some _ => .error (.givenTwice "--poll")
  | none => .ok { given with poll := some value }

def setRate (value : String) (given : Given) : Except CommandLineFault Given :=
  match given.maxReconcileRate with
  | some _ => .error (.givenTwice "--max-reconcile-rate")
  | none => .ok { given with maxReconcileRate := some value }

def ofArguments (given : Given) : List String → Except CommandLineFault Given
  | [] => .ok given
  | "-d" :: rest => do ofArguments (← given.setDebug) rest
  | "--debug" :: rest => do ofArguments (← given.setDebug) rest
  | "--poll" :: value :: rest => do ofArguments (← given.setPoll value) rest
  | "--max-reconcile-rate" :: value :: rest => do ofArguments (← given.setRate value) rest
  | ["--poll"] => .error (.valueMissing "--poll")
  | ["--max-reconcile-rate"] => .error (.valueMissing "--max-reconcile-rate")
  | argument :: _ => .error (.unexpected argument)

end Given

def readDebug (value : Option String) : Except CommandLineFault Bool :=
  match value with
  | none => .ok false
  | some "true" => .ok true
  | some "false" => .ok false
  | some value => .error (.invalidValue "--debug" value)

def readRate (value : Option String) : Except CommandLineFault Nat :=
  match value with
  | none => .ok Settings.defaultRate
  | some value =>
    match Text.readNat? UInt16.size value with
    | some rate => .ok rate
    | none => .error (.invalidValue "--max-reconcile-rate" value)

def read (environment : Environment) (arguments : List String) :
    Except CommandLineFault CommandLine := do
  let given ← Given.ofArguments {} arguments
  let debug ← if given.debug then .ok true else readDebug (environment.text? "DEBUG")
  let rate ← readRate (given.maxReconcileRate <|> environment.text? "MAX_RECONCILE_RATE")
  let poll := (given.poll <|> environment.text? "POLL_INTERVAL").getD Settings.defaultPollText
  return ⟨debug, poll, rate⟩

/-- The command line settles both of what it may replace. -/
def overrides (command : CommandLine) : Overrides :=
  ⟨some command.poll, some command.maxReconcileRate⟩

end CommandLine

end BucketKeys
