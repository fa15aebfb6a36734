import TaskSync.Record

/-!
# Store calls

What is asked of a store. Each call is one atomic step, and a call that fails
has changed nothing. The two writes look at the head of the chain first: they
write if it is the one the caller names, and otherwise answer what it is.
-/

namespace TaskSync.Store

inductive Appended where
  | committed (client : Client)
  | conflict (head : String)
deriving DecidableEq

inductive Stored where
  | accepted (client : Client)
  | mismatch (head : String)
deriving DecidableEq

inductive Call where
  | getClient (client : String)
  | createClient (client : String)
  /-- The version that follows a parent. -/
  | getVersionByParent (client parent : String)
  /-- Appends a version if the parent is the head. -/
  | addVersion (client parent version : String) (segment : Bytes)
  /-- Stores a snapshot if its version is the head. With `prune`, the versions before go. -/
  | addSnapshot (client version : String) (data : Bytes) (prune : Bool)
  | getSnapshot (client : String)
deriving DecidableEq

namespace Call

abbrev Reply : Call → Type
  | getClient _ => Option Client
  | createClient _ => Client
  | getVersionByParent .. => Option Version
  | addVersion .. => Appended
  | addSnapshot .. => Stored
  | getSnapshot _ => Option Snapshot

def client : Call → String
  | getClient client | createClient client | getVersionByParent client _
  | addVersion client .. | addSnapshot client .. | getSnapshot client => client

end Call

end TaskSync.Store
