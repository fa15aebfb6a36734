import TaskSync.Operation

/-!
# The engine

The four operations of the protocol. Every client has one chain of versions.
A version is added only behind the head, so that of two that race one is told
to merge first. Nothing is tried twice: a conflict is the answer.
-/

namespace TaskSync

/-- What happens to the versions before an accepted snapshot. -/
inductive Retention where
  | keepAll
  | pruneOnSnapshot
deriving DecidableEq

def Retention.name : Retention → String
  | keepAll => "keep-all"
  | pruneOnSnapshot => "prune-on-snapshot"

structure Engine where
  policy : SnapshotPolicy := {}
  /-- Whether an unknown client is created when it first comes. -/
  createClients : Bool := true
  retention : Retention := .keepAll
deriving DecidableEq

inductive ChildAnswer where
  | found (version : Version)
  /-- There is nothing newer. -/
  | upToDate
  /-- The version is unknown or was pruned, so that the snapshot has to be used. -/
  | gone
deriving DecidableEq

inductive AddVersionAnswer where
  | added (version : String) (urgency : Urgency)
  | conflict (head : String)
deriving DecidableEq

/-- Whether the client is asked for a snapshot. -/
def AddVersionAnswer.asksSnapshot : AddVersionAnswer → Bool
  | added _ urgency => urgency ≠ .none
  | conflict _ => false

inductive AddSnapshotAnswer where
  | accepted
  | rejected (head : String)
deriving DecidableEq

namespace Engine

open Operation

/-- The client's record. A client that another request creates in between is used as it is then. -/
def ensureClient (engine : Engine) (client : String) : Operation Client := do
  match ← call (.getClient client) with
  | some known => return known
  | none =>
    if !engine.createClients then throw (.noSuchClient client)
    match ← attempt (.createClient client) with
    | .ok created =>
      note (.clientCreated client)
      return created
    | .error (.clientAlreadyExists id) =>
      match ← call (.getClient client) with
      | some raced => return raced
      | none => throw (.clientAlreadyExists id)
    | .error failure => throw failure

/-- What follows a version. The client is read first, so that a version added in between is found. -/
def getChildVersion (engine : Engine) (client parent : String) : Operation ChildAnswer := do
  let record ← engine.ensureClient client
  match ← call (.getVersionByParent client parent) with
  | some version => return .found version
  | none =>
    if record.head = parent ∨ record.head = nilId then return .upToDate
    else return .gone

def addVersion (engine : Engine) (client parent : String) (segment : Bytes) :
    Operation AddVersionAnswer := do
  let _ ← engine.ensureClient client
  let version ← freshId
  match ← call (.addVersion client parent version segment) with
  | .conflict head =>
    note (.versionRejected client parent head)
    return .conflict head
  | .committed record =>
    let urgency := engine.policy.urgencyOf record (← now)
    note (.versionAccepted client parent version urgency)
    return .added version urgency

def addSnapshot (engine : Engine) (client version : String) (data : Bytes) :
    Operation AddSnapshotAnswer := do
  let record ← engine.ensureClient client
  if version = nilId then
    note (.snapshotOfNothing client)
    return .rejected record.head
  else
    match ← call (.addSnapshot client version data (engine.retention = .pruneOnSnapshot)) with
    | .mismatch head =>
      note (.snapshotRejected client version head)
      return .rejected head
    | .accepted _ =>
      note (.snapshotAccepted client version)
      return .accepted

/-- The client's snapshot. No client is created, for a new one has none. -/
def getSnapshot (engine : Engine) (client : String) : Operation (Option Snapshot) := do
  match ← call (.getClient client) with
  | none =>
    if !engine.createClients then throw (.noSuchClient client)
    return none
  | some _ => call (.getSnapshot client)

end Engine

end TaskSync
