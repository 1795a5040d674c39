import BucketKeys.Cluster.Writes
import BucketKeys.InMemory.ApiServer
import BucketKeys.InMemory.Bench

/-!
A site to run the controller at: an API server that holds everything but the tokens, and the token
service of a bench.
-/

namespace BucketKeys.InMemory

open Cluster (Exchange)

structure Site where
  server : ApiServer
  bench : Bench

namespace Site

def exchangeAct (exchange : Exchange α) : Act Site (Except Fault α) :=
  .immediate fun site =>
    let (result, server) := site.server.exchange exchange
    (result, { site with server := server })

def benchAct (act : Act Bench α) : Act Site α :=
  act.onPart (·.bench) fun bench site => { site with bench := bench }

def issuanceAct (call : Issuance.Call) : Act Site (Issuance.Answer call) :=
  match call with
  | .authentication (.providerConfig name) => exchangeAct (Cluster.providerConfig name)
  | .authentication (.track config consumer) => exchangeAct (Cluster.track config consumer)
  | .authentication (.secretKey selector) => exchangeAct (Cluster.secretKey selector)
  | .authentication (.variable name) => benchAct (Bench.issuanceAct (.authentication (.variable name)))
  | .authentication (.file path) => benchAct (Bench.issuanceAct (.authentication (.file path)))
  | .authenticate token => benchAct (Bench.issuanceAct (.authenticate token))
  | .listPermissionGroups => benchAct (Bench.issuanceAct .listPermissionGroups)
  | .createToken request => benchAct (Bench.issuanceAct (.createToken request))
  | .getToken id => benchAct (Bench.issuanceAct (.getToken id))
  | .deleteToken id => benchAct (Bench.issuanceAct (.deleteToken id))

def passAct (call : Pass.Call Issuance.interface) : Act Site (Pass.Answer call) :=
  match call with
  | .remote call => issuanceAct call
  | .updateAnnotations resource changes => exchangeAct (Cluster.updateAnnotations resource changes)
  | .updateFinalizers resource finalizers =>
    exchangeAct (Cluster.updateFinalizers resource finalizers)
  | .updateStatus resource => exchangeAct (Cluster.updateStatus resource)
  | .publish resource details => exchangeAct (Cluster.publish resource details)
  | .pause span => .pause span

def resources (site : Site) : List Json :=
  site.server.objects.entries.filterMap fun entry =>
    if entry.1.startsWith (Cluster.objectsPath .credentials ++ "/") then some entry.2 else none

/-- Rounds over one resource as it was first listed, each when the one before asks for it, until a
number of requests was made. Every round that is not put off makes a request or is the last. -/
def watch (options : PassOptions) (resource : Credentials) (enough : Nat) :
    (rounds : Nat) → World Site → World Site
  | 0, world => world
  | rounds + 1, world =>
    let (turn, world) := turn passAct Issuance.connector options resource world
    if enough ≤ world.state.server.requests.length then world
    else
      match turn.next with
      | .requeue after => watch options resource enough rounds (world.pass after)
      | .awaitChange => world

end Site

end BucketKeys.InMemory
