import CommandFlow.Http.Message

/-!
# Endpoints

* `Endpoint` : what a request to the service can be about; `Endpoint.ofPath?` : what a path stands for;
* `Route` : where a request leads; `route` : the route of a method and a path.
-/

namespace CommandFlow.Service

/-- What a request to the service can be about. The parts of paths are not checked yet. -/
inductive Endpoint where
  | health
  | readiness
  | interactions
  | deploy
  | undeploy (project guild : String)
  | join (guild : String)
  | leave (guild : String)
  | simulate
  | validate
  | saveGraph (command : String)
  deriving DecidableEq

namespace Endpoint

def method : Endpoint → String
  | health | readiness => "GET"
  | undeploy _ _ => "DELETE"
  | saveGraph _ => "PUT"
  | _ => "POST"

/-- What the parts of a path stand for, none of which is empty. -/
def ofParts? : List String → Option Endpoint
  | ["healthz"] => some health
  | ["readyz"] => some readiness
  | ["interactions"] => some interactions
  | ["v1", "deployments"] => some deploy
  | ["v1", "deployments", project, guild] => some (undeploy project guild)
  | ["v1", "guilds", guild, "join"] => some (join guild)
  | ["v1", "guilds", guild, "leave"] => some (leave guild)
  | ["v1", "simulate"] => some simulate
  | ["v1", "graphs", "validate"] => some validate
  | ["v1", "commands", command, "graph"] => some (saveGraph command)
  | _ => none

def parts? (path : List Char) : Option (List String) :=
  match path with
  | '/' :: rest =>
    let parts := rest.splitOn '/'
    if parts.any List.isEmpty then none else some (parts.map String.ofList)
  | _ => none

def withoutBreak (path : List Char) : List Char :=
  if path.getLast? = some '\n' then path.dropLast else path

/-- What a path stands for. A line break at the end of the path does not count, unless it can belong to a
part that is open. -/
def ofPath? (path : List Char) : Option Endpoint :=
  match (parts? path).bind ofParts? with
  | some endpoint => some endpoint
  | none => (parts? (withoutBreak path)).bind ofParts?

end Endpoint

inductive Route where
  | endpoint (endpoint : Endpoint)
  | wrongMethod
  /-- The path without the slashes at its end would lead somewhere. -/
  | elsewhere
  | nowhere
  deriving DecidableEq

def withoutSlashes (path : List Char) : List Char := (path.reverse.dropWhile (· = '/')).reverse

def route (method : String) (path : List Char) : Route :=
  match Endpoint.ofPath? path with
  | some endpoint => if endpoint.method = method then .endpoint endpoint else .wrongMethod
  | none =>
    if path.getLast? = some '/' && (Endpoint.ofPath? (withoutSlashes path)).isSome then .elsewhere
    else .nowhere

end CommandFlow.Service
