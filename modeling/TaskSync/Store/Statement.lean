import TaskSync.Record

/-!
# Statements

The statements sent to a database server, with their text, their values, and
the kind of rows that each returns.
-/

namespace TaskSync.Store

inductive Parameter where
  | text (value : String)
  | number (value : Number)
  | bytes (value : Bytes)
deriving DecidableEq

inductive Statement where
  | begin
  | commit
  | rollback
  | selectClient (client : String)
  /-- Reads a client and keeps others from writing it until the transaction ends. -/
  | lockClient (client : String)
  | insertClient (client : String)
  | selectVersion (client parent : String)
  | insertVersion (client version parent : String) (segment : Bytes)
  | advanceHead (version client : String)
  | storeSnapshot (version : String) (time : Number) (data : Bytes) (client : String)
  | pruneVersions (client kept : String)
  | selectSnapshot (client : String)
deriving DecidableEq

/-- A time as the server returns it. Wide integers come as text. -/
inductive Stamp where
  | text (value : String)
  | number (value : Number)
deriving DecidableEq

structure ClientColumns where
  client : String
  head : String
  snapshotVersion : Option String
  sinceSnapshot : Nat
  snapshotTime : Option Stamp
deriving DecidableEq

structure SnapshotColumns where
  version : Option String
  data : Option Bytes
deriving DecidableEq

namespace Statement

/-- The rows that a statement returns, as far as they are looked at. -/
abbrev Row : Statement → Type
  | selectClient _ | lockClient _ | advanceHead .. | storeSnapshot .. => ClientColumns
  | insertClient _ => Unit
  | selectVersion .. => Version
  | selectSnapshot _ => SnapshotColumns
  | begin | commit | rollback | insertVersion .. | pruneVersions .. => Unit

def clientColumns : String :=
  "client_id, latest_version_id, snapshot_version_id, versions_since_snapshot, snapshot_timestamp"

def sql : Statement → String
  | begin => "BEGIN"
  | commit => "COMMIT"
  | rollback => "ROLLBACK"
  | selectClient _ => "SELECT " ++ clientColumns ++ " FROM clients WHERE client_id = $1"
  | lockClient _ => "SELECT " ++ clientColumns ++ " FROM clients WHERE client_id = $1 FOR UPDATE"
  | insertClient _ =>
    "INSERT INTO clients (client_id) VALUES ($1) ON CONFLICT (client_id) DO NOTHING RETURNING client_id"
  | selectVersion .. =>
    "SELECT version_id, parent_version_id, history_segment FROM versions " ++
      "WHERE client_id = $1 AND parent_version_id = $2"
  | insertVersion .. =>
    "INSERT INTO versions (client_id, version_id, parent_version_id, history_segment) " ++
      "VALUES ($1, $2, $3, $4)"
  | advanceHead .. =>
    "UPDATE clients SET latest_version_id = $1, " ++
      "versions_since_snapshot = versions_since_snapshot + 1 WHERE client_id = $2 RETURNING " ++
      clientColumns
  | storeSnapshot .. =>
    "UPDATE clients SET snapshot_version_id = $1, snapshot_timestamp = $2, " ++
      "versions_since_snapshot = 0, snapshot = $3 WHERE client_id = $4 RETURNING " ++ clientColumns
  | pruneVersions .. => "DELETE FROM versions WHERE client_id = $1 AND version_id <> $2"
  | selectSnapshot _ => "SELECT snapshot_version_id, snapshot FROM clients WHERE client_id = $1"

/-- The values for the placeholders of the text, or nothing if it has none. -/
def parameters : Statement → Option (List Parameter)
  | begin | commit | rollback => none
  | selectClient client | lockClient client | insertClient client | selectSnapshot client =>
    some [.text client]
  | selectVersion client parent => some [.text client, .text parent]
  | insertVersion client version parent segment =>
    some [.text client, .text version, .text parent, .bytes segment]
  | advanceHead version client => some [.text version, .text client]
  | storeSnapshot version time data client =>
    some [.text version, .number time, .bytes data, .text client]
  | pruneVersions client kept => some [.text client, .text kept]

def writes : Statement → Bool
  | insertClient _ | insertVersion .. | advanceHead .. | storeSnapshot .. | pruneVersions .. => true
  | _ => false

end Statement

end TaskSync.Store
