import TaskSync.Failure
import TaskSync.Store.Call

/-!
# Relations

The two relations of the database, clients and versions, and the statements on
them. A client id is unique, and so are a client's version ids and its parents.
An event on a relation can be made to fail, which stands for a driver that
fails.
-/

namespace TaskSync.Store

inductive Relation where
  | clients
  | versions
deriving DecidableEq

inductive Event where
  | insert
  | update
  | delete
deriving DecidableEq

/-- An event on rows of a relation that is made to fail. -/
structure Fault where
  relation : Relation
  event : Event
deriving DecidableEq

structure ClientRow where
  record : Client
  snapshot : Option Bytes := none
deriving DecidableEq

structure VersionRow where
  client : String
  version : Version
deriving DecidableEq

structure Database where
  clients : List ClientRow := []
  versions : List VersionRow := []
deriving DecidableEq

/-- What is done on the database while some events fail. A failure does not by itself undo what
was written before it. -/
abbrev Work := ReaderT (List Fault) (ExceptT Failure (StateM Database))

namespace Work

def driverFailure (message : String) : Failure := .foreign "SqliteError" message

def meet (relation : Relation) (event : Event) : Work Unit := do
  if (← read).contains ⟨relation, event⟩ then throw (driverFailure "injected failure")

def violates (columns : String) : Failure :=
  driverFailure ("UNIQUE constraint failed: " ++ columns)

def client? (client : String) : Work (Option ClientRow) :=
  return (← get).clients.find? (·.record.id = client)

def child? (client parent : String) : Work (Option VersionRow) :=
  return (← get).versions.find? fun row => row.client = client && row.version.parent = parent

def insertClient (row : ClientRow) : Work Unit := do
  meet .clients .insert
  if (← client? row.record.id).isSome then throw (violates "clients.client_id")
  modify fun db => { db with clients := db.clients ++ [row] }

def updateClient (client : String) (change : ClientRow → ClientRow) : Work Unit := do
  if (← client? client).isSome then
    meet .clients .update
    modify fun db =>
      { db with clients := db.clients.map fun row => if row.record.id = client then change row else row }

def insertVersion (row : VersionRow) : Work Unit := do
  meet .versions .insert
  if (← child? row.client row.version.parent).isSome then
    throw (violates "versions.client_id, versions.parent_version_id")
  if (← get).versions.any fun old => old.client = row.client && old.version.id = row.version.id then
    throw (violates "versions.client_id, versions.version_id")
  modify fun db => { db with versions := db.versions ++ [row] }

def deleteVersions (chosen : VersionRow → Bool) : Work Unit := do
  if (← get).versions.any chosen then
    meet .versions .delete
    modify fun db => { db with versions := db.versions.filter fun row => !chosen row }

/-- Deletes a client with its versions, and counts the deleted clients. -/
def deleteClient (client : String) : Work Nat := do
  if (← client? client).isSome then
    meet .clients .delete
    modify fun db => { db with clients := db.clients.filter fun row => row.record.id ≠ client }
    deleteVersions (·.client = client)
    return 1
  return 0

/-- Undoes what was written if a failure is met. -/
def atomically {α : Type} (work : Work α) : Work α := fun faults db =>
  match work faults db with
  | (.ok value, after) => (.ok value, after)
  | (.error failure, _) => (.error failure, db)

theorem atomically_of_error {α : Type} {work : Work α} {faults : List Fault} {db after : Database}
    {failure : Failure} (fails : work.atomically faults db = (.error failure, after)) :
    after = db := by
  unfold atomically at fails
  split at fails
  · cases fails
  · cases fails
    rfl

end Work

end TaskSync.Store
