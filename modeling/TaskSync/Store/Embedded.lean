import TaskSync.Store.Relations

/-!
# The embedded database

The store over a database of its own. Every call is a transaction. What the
driver raises is reported under the name of what was being done.
-/

namespace TaskSync.Store

namespace Database

def empty : Database := ⟨[], []⟩

end Database

namespace Embedded

/-- The name of what a call does, under which the driver's failures are reported. -/
def context : Call → String
  | .getClient _ => "Error getting client"
  | .createClient _ => "Error creating client"
  | .getVersionByParent .. => "Error getting version"
  | .addVersion .. => "Error adding version"
  | .addSnapshot .. => "Error adding snapshot"
  | .getSnapshot _ => "Error getting snapshot"

def requireClient (client : String) : Work ClientRow := do
  match ← Work.client? client with
  | some row => return row
  | none => throw (.noSuchClient client)

def createClient (client : String) : Work Client := do
  if (← Work.client? client).isSome then throw (.clientAlreadyExists client)
  Work.insertClient ⟨.fresh client, none⟩
  return .fresh client

def addVersion (client parent version : String) (segment : Bytes) : Work Appended := do
  let row ← requireClient client
  if row.record.head = parent then
    Work.insertVersion ⟨client, ⟨version, parent, segment⟩⟩
    Work.updateClient client fun row => { row with record := row.record.advance version }
    return .committed (← requireClient client).record
  else return .conflict row.record.head

/-- A time as a column holds it. -/
def timeColumn (time : Number) : Option Number := if time.isNaN then none else some time

def addSnapshot (now : Number) (client version : String) (data : Bytes) (prune : Bool) :
    Work Stored := do
  let row ← requireClient client
  if row.record.head = version then
    Work.updateClient client fun row =>
      ⟨row.record.snapshotTaken version (timeColumn now), some data⟩
    if prune then
      Work.deleteVersions fun row => row.client = client && row.version.id ≠ version
    return .accepted (← requireClient client).record
  else return .mismatch row.record.head

def snapshot? (row : ClientRow) : Option Snapshot := do
  let data ← row.snapshot
  let version ← row.record.snapshotVersion
  return ⟨version, data⟩

def perform (now : Number) : (call : Call) → Work call.Reply
  | .getClient client => return (← Work.client? client).map (·.record)
  | .createClient client => createClient client
  | .getVersionByParent client parent => return (← Work.child? client parent).map (·.version)
  | .addVersion client parent version segment => addVersion client parent version segment
  | .addSnapshot client version data prune => addSnapshot now client version data prune
  | .getSnapshot client => return (← Work.client? client).bind snapshot?

/-- Answers a call at a time, as one transaction. -/
def call (now : Number) (call : Call) : Work call.Reply :=
  tryCatchThe Failure (perform now call).atomically fun failure =>
    throw (failure.wrap (context call))

/-- What a connection answers once it is closed. -/
def closed (call : Call) : Failure :=
  .storage (context call) (.error "The database connection is not open")

end Embedded

end TaskSync.Store
