import TaskSync.Http.Allowlist
import TaskSync.Http.BodyLimit
import TaskSync.Http.Command

/-!
# The application

How a request is answered. Under the protocol's path the client must be
admitted, then the body must not be too long, then the request must be well
formed, and only then the engine is asked. Every answer has the id of its
request and is not to be cached, and every request is logged.
-/

namespace TaskSync.Http

def serverName : String := "Task Sync Server"

def serverVersion : String := "0.1.0"

/-- The longest body accepted unless another limit is set: a hundred binary megabytes. -/
def defaultMaxBody : Number := 104857600

structure App where
  engine : Engine := {}
  allowlist : Allowlist := ⟨[]⟩
  maxBody : Number := defaultMaxBody
deriving DecidableEq

namespace App

open Operation (ask)

structure Destination where
  /-- The method as it is logged. -/
  method : String
  path : List Char
  route : Option Route

/-- A request for the headers alone leads where the request for all of it does. -/
def destination (request : Request) : Destination :=
  let method := request.verb
  let path := Target.path request.target
  ⟨method, path, Route.find? (if method = "HEAD" then "GET" else method) path⟩

def notFound : Response := .plain 404 "404 Not Found"

/-- The answer to a command. Whatever fails in the store is not told to the client. -/
def settle (app : App) (command : Command) (method path : String) : Conversation Response := do
  match ← (command.perform app.engine).run with
  | .ok response => return response
  | .error (.noSuchClient _) => return .plain 403 "Forbidden: unknown client"
  | .error failure =>
    ask (.note (.requestFailed failure method path))
    return .plain 500 "Internal Server Error"

def serve (app : App) (request : Request) (goal : Destination) : Conversation Response :=
  match goal.route with
  | none => return notFound
  | some .banner => return .plain 200 (serverName ++ " v" ++ serverVersion)
  | some (.protocol endpoint) =>
    match Command.read request endpoint with
    | .error refusal => return .plain 400 refusal
    | .ok command => app.settle command goal.method (String.ofList goal.path)

/-- Keeps out who is not admitted and what is too long. -/
def guarded (app : App) (request : Request) (goal : Destination) : Conversation Response :=
  if !Route.isGuarded goal.path then app.serve request goal
  else if !app.allowlist.admits request.headers then
    return .plain 403 "Forbidden: Client ID not in allowlist"
  else if exceeds app.maxBody request then return .plain 400 "Request body too large"
  else app.serve request goal

def requestId? (headers : Headers) : Option String :=
  ((headers.get? "x-request-id").map Text.trim).filter (· ≠ "")

/-- Gives the answer its id and logs the request. -/
def logged (request : Request) (goal : Destination) (inner : Conversation Response) :
    Conversation Response := do
  let start ← ask .stopwatch
  let id ← match requestId? request.headers with
    | some id => pure id
    | none => ask .freshId
  let response ← inner
  let stop ← ask .stopwatch
  ask (.note (.requestCompleted id goal.method (String.ofList goal.path) response.status
    (stop.sub start).nearest))
  return response.withHeaders [("x-request-id", id), ("cache-control", "no-store, max-age=0")]

def respond (app : App) (request : Request) : Conversation Response := do
  let goal := destination request
  let response ← logged request goal (app.guarded request goal)
  return { response with headOnly := goal.method = "HEAD" }

end App

end TaskSync.Http
