import BucketKeys.CommandLine
import BucketKeys.InMemory.Description
import BucketKeys.InMemory.NoteJson
import BucketKeys.Json.Write
import BucketKeys.Startup

/-!
The controller at a described site: reads the description of a site from standard input, watches
its one resource until the number of requests that the description gives under `stop_after`, and
prints the requests that the cluster saw and, in debug mode, the calls of the token service.
-/

namespace BucketKeys.Main

open InMemory (Site World)

def variableNames : List String :=
  ["DEBUG", "POLL_INTERVAL", "RECONCILE_TIMEOUT", "MAX_RECONCILE_RATE", "CLOUDFLARE_API_BASE_URL",
   "SERVER_STARTUP_TIMEOUT_SECS"]

def requestLine (request : Cluster.Request) : String :=
  request.method ++ " " ++ request.path

/-- Descriptions for the command line lay out no rehearsals. -/
def noCue : Json.Decoder InMemory.Cue := fun _ => none

def watched? (controllers : Controllers) (start : Time.Instant) (description : Json) :
    Option Site := do
  let site ← Site.describe? noCue (InMemory.Bench.withObject .null) description
  let enough ← (description.get? "stop_after").bind InMemory.natural?
  let resource ← site.resources.head?.bind Credentials.ofJson?
  let world := World.start start controllers.limiter site
  let options := PassOptions.ofSettings controllers.settings
  return (Site.watch options resource enough (4 * enough + 4) world).state

def report (debug : Bool) (site : Site) : List String :=
  site.server.requests.reverse.map requestLine ++
    if debug then [site.bench.notesJson.write] else []

def run (environment : Environment) (command : CommandLine) (input : String) :
    Except String (List String) :=
  let start : Time.Instant := ⟨0, 0⟩
  match (Controllers.start environment command.overrides true start .fresh).1 with
  | .error fault => .error fault.message
  | .ok controllers =>
    match (Json.readAll? input).bind (watched? controllers start ·.distinct) with
    | some site => .ok (report command.debug site)
    | none => .error "standard input describes no site"

end BucketKeys.Main

open BucketKeys in
def main (arguments : List String) : IO UInt32 := do
  let mut environment : Environment := {}
  for name in Main.variableNames do
    if let some value ← IO.getEnv name then
      environment := environment.insert name (Text.encode value)
  match CommandLine.read environment arguments with
  | .error fault =>
    IO.eprintln ("error: " ++ fault.message)
    return 2
  | .ok command =>
    let input ← (← IO.getStdin).lines
    match Main.run environment command (String.join input.toList) with
    | .error message =>
      IO.eprintln ("Error: " ++ message)
      return 1
    | .ok lines =>
      lines.forM IO.println
      return 0
