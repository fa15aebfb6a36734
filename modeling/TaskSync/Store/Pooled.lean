import TaskSync.Dialogue
import TaskSync.Failure
import TaskSync.Number.Numeral
import TaskSync.Number.Shortest
import TaskSync.Store.Call
import TaskSync.Store.Statement

/-!
# The pooled database

The store over a database server. Every call checks one connection out of a
pool and gives it back. A write is a transaction that locks the client's row
before it looks at the head. A transaction that fails is rolled back, and a
connection whose rollback failed is given back with that failure, so that the
pool drops it.
-/

namespace TaskSync

def Raw.toText : Raw → String
  | null => "null"
  | bool value => if value then "true" else "false"
  | number value => value.text
  | text value => value
  | compound _ shown => shown

namespace Store

def Stamp.toNumber : Stamp → Number
  | .text value => .read value
  | .number value => value

/-- What is asked of a pool and of the connection taken from it. -/
inductive Request where
  | connect
  | run (statement : Statement)
  | release (failure : Option Failure)
  | endPool
deriving DecidableEq

abbrev Request.Answer : Request → Type
  | connect => Except Failure Unit
  | run statement => Except Failure (List statement.Row)
  | release _ => Unit
  | endPool => Unit

abbrev Talk := Dialogue Request Request.Answer

abbrev Exchange := ExceptT Failure Talk

namespace Pooled

def ask (request : Request) : Talk request.Answer := Dialogue.query request

def run (statement : Statement) : Exchange (List statement.Row) := ExceptT.mk (ask (.run statement))

def release (failure : Option Failure) : Talk Unit := ask (.release failure)

/-- The failure that a connection is given back with. A plain value is made one. -/
def asError : Failure → Failure
  | .raised raw => .plain raw.toText
  | failure => failure

/-- Rolls back, and says how that failed. -/
def rollback : Talk (Option Failure) := do
  match ← ask (.run .rollback) with
  | .ok _ => return none
  | .error failure => return some (asError failure)

/-- Does the work once a connection is there. -/
def connected {α : Type} (work : Talk (Except Failure α)) : Exchange α := ExceptT.mk do
  match ← ask .connect with
  | .error failure => return .error (failure.wrap "error connecting to database")
  | .ok _ => work

def withConnection {α : Type} (context : String) (work : Exchange α) : Exchange α :=
  connected do
    let result ← work.run
    release none
    return result.mapError (Failure.wrap context)

/-- The work between the begin and the commit of a transaction. -/
def committed {α : Type} (work : Exchange α) : Exchange α := do
  let _ ← run .begin
  let value ← work
  let _ ← run .commit
  return value

def transaction {α : Type} (context : String) (work : Exchange α) : Exchange α :=
  connected do
    match ← (committed work).run with
    | .ok value =>
      release none
      return .ok value
    | .error failure =>
      release (← rollback)
      return .error (failure.wrap context)

def toClient (row : ClientColumns) : Client :=
  ⟨row.client, row.head, row.snapshotVersion, row.sinceSnapshot,
    row.snapshotTime.map Stamp.toNumber⟩

/-- The first row of a statement about a client, which must be there. -/
def requireRow {α : Type} (client : String) : List α → Exchange α
  | row :: _ => return row
  | [] => throw (.noSuchClient client)

def getClient (client : String) : Exchange (Option Client) :=
  withConnection "error getting client" do
    return (← run (.selectClient client)).head?.map toClient

def createClient (client : String) : Exchange Client :=
  withConnection "error creating client" do
    if (← run (.insertClient client)).isEmpty then throw (.clientAlreadyExists client)
    return .fresh client

def getVersionByParent (client parent : String) : Exchange (Option Version) :=
  withConnection "error getting version" do
    return (← run (.selectVersion client parent)).head?

def addVersion (client parent version : String) (segment : Bytes) : Exchange Appended :=
  transaction "error adding version" do
    let locked ← requireRow client (← run (.lockClient client))
    if locked.head = parent then
      let _ ← run (.insertVersion client version parent segment)
      let updated ← requireRow client (← run (.advanceHead version client))
      return .committed (toClient updated)
    else return .conflict locked.head

def addSnapshot (now : Number) (client version : String) (data : Bytes) (prune : Bool) :
    Exchange Stored :=
  transaction "error setting snapshot" do
    let locked ← requireRow client (← run (.lockClient client))
    if locked.head = version then
      let updated ← requireRow client (← run (.storeSnapshot version now data client))
      if prune then
        let _ ← run (.pruneVersions client version)
      return .accepted (toClient updated)
    else return .mismatch locked.head

def snapshot? (row : SnapshotColumns) : Option Snapshot := do
  let data ← row.data
  let version ← row.version
  return ⟨version, data⟩

def getSnapshot (client : String) : Exchange (Option Snapshot) :=
  withConnection "error getting snapshot data" do
    return (← run (.selectSnapshot client)).head?.bind snapshot?

def call (now : Number) : (call : Call) → Exchange call.Reply
  | .getClient client => getClient client
  | .createClient client => createClient client
  | .getVersionByParent client parent => getVersionByParent client parent
  | .addVersion client parent version segment => addVersion client parent version segment
  | .addSnapshot client version data prune => addSnapshot now client version data prune
  | .getSnapshot client => getSnapshot client

def close : Talk Unit := ask .endPool

/-! ## The pool's settings -/

structure Settings where
  connectionString : Option String := none
  max : Option Number := none
  connectionTimeout : Option Number := none
  idleTimeout : Option Number := none
  statementTimeout : Option Number := none

/-- What the pool is opened with. -/
structure Options where
  connectionString : String
  max : Number
  connectionTimeout : Number
  idleTimeout : Number
  /-- Handed to the server, which ends statements that take too long. -/
  serverOptions : Option String

/-- Where a setting is left out, ten connections, and five, thirty and thirty seconds. -/
def options (settings : Settings) : Except Failure Options :=
  match settings.connectionString.filter (· ≠ "") with
  | none => .error (.plain "PostgresStorage needs either a connectionString or a pool")
  | some connectionString =>
    let timeout := settings.statementTimeout.getD 30000
    .ok {
      connectionString
      max := settings.max.getD 10
      connectionTimeout := settings.connectionTimeout.getD 5000
      idleTimeout := settings.idleTimeout.getD 30000
      serverOptions :=
        if Number.lt 0 timeout then some ("-c statement_timeout=" ++ timeout.text) else none }

end Pooled

end Store

end TaskSync
