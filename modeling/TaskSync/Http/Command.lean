import TaskSync.Engine
import TaskSync.Http.Message
import TaskSync.Http.Route
import TaskSync.Uuid

/-!
# Commands

What a request asks of the engine, or why it is refused before the engine is
asked, and how the engine's answer is sent.
-/

namespace TaskSync.Http

def segmentType : String := "application/vnd.taskchampion.history-segment"

def snapshotType : String := "application/vnd.taskchampion.snapshot"

inductive Command where
  | addVersion (client parent : String) (segment : Bytes)
  | getChildVersion (client parent : String)
  | addSnapshot (client version : String) (data : Bytes)
  | getSnapshot (client : String)
deriving DecidableEq

def occursIn (part : List Char) : List Char → Bool
  | [] => part.isEmpty
  | c :: cs => part.isPrefixOf (c :: cs) || occursIn part cs

namespace Command

def readClient (headers : Headers) : Except String String :=
  match headers.filled? "x-client-id" with
  | none => .error "Missing X-Client-Id header"
  | some value =>
    match Uuid.read? value with
    | none => .error "Invalid X-Client-Id header"
    | some client => .ok client

/-- The version that the path names, under the name of that place. -/
def readVersion (place value : String) : Except String String :=
  match Uuid.read? value with
  | none => .error ("Invalid " ++ place)
  | some version => .ok version

/-- A body that is not empty and that is not said to be of another type. -/
def readBody (mediaType what : String) (request : Request) : Except String Bytes :=
  let given := (request.headers.filled? "content-type").getD mediaType
  if !occursIn mediaType.toList given.toList then .error "Invalid content type"
  else if request.body.bytes.isEmpty then .error ("Missing " ++ what)
  else .ok request.body.bytes

/-- The command of a request to an endpoint, or the text of the refusal. -/
def read (request : Request) : Endpoint → Except String Command
  | .addVersion parent => do
    let client ← readClient request.headers
    let parent ← readVersion "parentVersionId" parent
    let segment ← readBody segmentType "history segment" request
    return addVersion client parent segment
  | .getChildVersion parent => do
    let client ← readClient request.headers
    let parent ← readVersion "parentVersionId" parent
    return getChildVersion client parent
  | .addSnapshot version => do
    let client ← readClient request.headers
    let version ← readVersion "versionId" version
    let data ← readBody snapshotType "snapshot data" request
    return addSnapshot client version data
  | .getSnapshot => do
    let client ← readClient request.headers
    return getSnapshot client

/-! ## Answers -/

def sendAdded : AddVersionAnswer → Response
  | .conflict head => { status := 409, headers := [("x-parent-version-id", head)] }
  | .added version .none => { status := 200, headers := [("x-version-id", version)] }
  | .added version urgency =>
    { status := 200
      headers := [("x-version-id", version), ("x-snapshot-request", "urgency=" ++ urgency.name)] }

def sendChild : ChildAnswer → Response
  | .gone => .plain 410 "Version pruned"
  | .upToDate => .plain 404 "Up to date"
  | .found version =>
    { status := 200
      headers := [("x-version-id", version.id), ("x-parent-version-id", version.parent)]
      content := .bytes segmentType version.segment }

def sendSnapshot : Option Snapshot → Response
  | none => .plain 404 "No snapshot available"
  | some snapshot =>
    { status := 200
      headers := [("x-version-id", snapshot.version)]
      content := .bytes snapshotType snapshot.data }

/-- Has the engine do what a command asks. A snapshot that the engine rejects is no failure. -/
def perform (engine : Engine) : Command → Operation Response
  | addVersion client parent segment => sendAdded <$> engine.addVersion client parent segment
  | getChildVersion client parent => sendChild <$> engine.getChildVersion client parent
  | addSnapshot client version data =>
    (fun _ => { status := 200 }) <$> engine.addSnapshot client version data
  | getSnapshot client => sendSnapshot <$> engine.getSnapshot client

end Command

end TaskSync.Http
