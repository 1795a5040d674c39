import BucketKeys.Cluster.Exchange
import BucketKeys.Dictionary
import BucketKeys.Json.MergePatch

/-!
An API server in memory: objects by path, with a log of the requests. Some of the next requests
may be laid out to be refused.
-/

namespace BucketKeys.InMemory

open Cluster

structure ApiServer where
  objects : Dictionary Json
  /-- For each of the next requests, whether and how it is refused. -/
  refusals : List (Option Refusal)
  requests : List Request

namespace ApiServer

def withObjects (objects : Dictionary Json) : ApiServer :=
  ⟨objects, [], []⟩

def put (path : String) (object : Json) (server : ApiServer) : ApiServer :=
  { server with objects := server.objects.insert path object }

def remove (path : String) (server : ApiServer) : ApiServer :=
  { server with objects := server.objects.erase path }

def merge? (path : String) (patch : Json) (server : ApiServer) : Option (Json × ApiServer) :=
  (server.objects.get? path).map fun object =>
    let merged := object.mergePatch patch
    (merged, server.put path merged)

def missing : Refusal := ⟨404, "not found", "NotFound"⟩

/-- The status is a part of its object. -/
def objectPath (path : String) : String :=
  if path.endsWith "/status" then String.ofList (path.toList.take (path.length - 7)) else path

def serve (request : Request) (server : ApiServer) : Reply × ApiServer :=
  match request.verb with
  | .get =>
    match server.objects.get? request.path with
    | some object => (.ok object, server)
    | none => (.error missing, server)
  | .merge patch =>
    match server.merge? (objectPath request.path) patch with
    | some (merged, server) => (.ok merged, server)
    | none => (.error missing, server)
  | .apply object => (.ok object, server.put request.path object)

def answer (request : Request) (server : ApiServer) : Reply × ApiServer :=
  let server := { server with requests := request :: server.requests }
  match server.refusals with
  | some refusal :: rest => (.error refusal, { server with refusals := rest })
  | none :: rest => serve request { server with refusals := rest }
  | [] => serve request server

def exchange (exchange : Exchange α) (server : ApiServer) : Except Fault α × ApiServer :=
  match exchange with
  | .settled result => (result, server)
  | .asking request finish =>
    let (reply, server) := server.answer request
    (finish reply, server)

end ApiServer

end BucketKeys.InMemory
