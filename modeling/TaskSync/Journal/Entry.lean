import TaskSync.Failure
import TaskSync.Journal.Level
import TaskSync.Urgency

/-!
# Log entries

The events that are logged, and how each is written: its level, the module it
comes from, its message and its fields.
-/

namespace TaskSync.Journal

inductive Entry where
  | clientCreated (client : String)
  | versionAccepted (client parent version : String) (urgency : Urgency)
  | versionRejected (client parent head : String)
  | snapshotAccepted (client version : String)
  /-- A snapshot of the nil version. -/
  | snapshotOfNothing (client : String)
  /-- A snapshot of a version that is not the head. -/
  | snapshotRejected (client version head : String)
  | requestCompleted (id method path : String) (status : Nat) (duration : Number)
  | requestFailed (failure : Failure) (method path : String)
deriving DecidableEq

inductive Field where
  | text (value : String)
  | number (value : Number)
  | failure (kind message : String)
deriving DecidableEq

end Journal

def Failure.kind : Failure → String
  | noSuchClient _ => "NoSuchClientError"
  | clientAlreadyExists _ => "ClientAlreadyExistsError"
  | storage .. => "StorageError"
  | config _ => "ConfigError"
  | general _ => "SyncServerError"
  | foreign name _ => name
  | raised _ => ""

/-- The message, and after it the message of the failure that is the cause. -/
def Failure.fullMessage : Failure → String
  | storage message (.error cause) => message ++ ": " ++ cause
  | failure => failure.message

namespace Journal.Entry

def level : Entry → Level
  | clientCreated _ | requestCompleted .. => .info
  | requestFailed .. => .error
  | _ => .debug

/-- The module that logs the event. -/
def source? : Entry → Option String
  | requestCompleted .. => some "http"
  | requestFailed .. => none
  | _ => some "engine"

def message : Entry → String
  | clientCreated _ => "created client"
  | versionAccepted .. => "add_version accepted"
  | versionRejected .. => "add_version rejected: parent is not the latest version"
  | snapshotAccepted .. => "accepted snapshot"
  | snapshotOfNothing _ => "rejecting snapshot for the nil version"
  | snapshotRejected .. => "rejecting snapshot: version is not the latest version"
  | requestCompleted .. => "request.completed"
  | requestFailed .. => "internal server error"

def fields : Entry → List (String × Field)
  | clientCreated client | snapshotOfNothing client => [("clientId", .text client)]
  | versionAccepted client parent version urgency =>
    [("clientId", .text client), ("parentVersionId", .text parent), ("versionId", .text version),
      ("snapshotUrgency", .text urgency.name)]
  | versionRejected client parent head =>
    [("clientId", .text client), ("parentVersionId", .text parent), ("latestVersionId", .text head)]
  | snapshotAccepted client version => [("clientId", .text client), ("versionId", .text version)]
  | snapshotRejected client version head =>
    [("clientId", .text client), ("versionId", .text version), ("latestVersionId", .text head)]
  | requestCompleted id method path status duration =>
    [("requestId", .text id), ("method", .text method), ("path", .text path),
      ("status", .number (.ofNat status)), ("durationMs", .number duration)]
  | requestFailed failure method path =>
    [("err", .failure failure.kind failure.fullMessage), ("method", .text method),
      ("path", .text path)]

end Journal.Entry

end TaskSync
