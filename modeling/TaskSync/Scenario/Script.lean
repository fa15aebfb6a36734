import TaskSync.Store.Pooled

/-!
# A scripted pool

A pool whose one connection answers from a script, and what was asked of it.
When the script has run out there are no rows.
-/

namespace TaskSync.Scenario

open Store

inductive Cell where
  | null
  | text (value : String)
  | number (value : Number)
  | bytes (value : Bytes)
deriving DecidableEq

abbrev Row := List (String × Cell)

inductive Scripted where
  | rows (rows : List Row)
  | failed (failure : Failure)

namespace Row

def cell (row : Row) (column : String) : Cell :=
  ((row.find? (·.1 = column)).map (·.2)).getD .null

def text? (row : Row) (column : String) : Option String :=
  match row.cell column with
  | .text value => some value
  | _ => none

def text (row : Row) (column : String) : String := (row.text? column).getD ""

def bytes? (row : Row) (column : String) : Option Bytes :=
  match row.cell column with
  | .bytes value => some value
  | _ => none

def count (row : Row) (column : String) : Nat :=
  match row.cell column with
  | .number value => (value.toInt?.getD 0).toNat
  | _ => 0

def stamp? (row : Row) (column : String) : Option Stamp :=
  match row.cell column with
  | .text value => some (.text value)
  | .number value => some (.number value)
  | _ => none

def clientColumns (row : Row) : ClientColumns where
  client := row.text "client_id"
  head := row.text "latest_version_id"
  snapshotVersion := row.text? "snapshot_version_id"
  sinceSnapshot := row.count "versions_since_snapshot"
  snapshotTime := row.stamp? "snapshot_timestamp"

def read (row : Row) : (statement : Statement) → statement.Row
  | .selectClient _ | .lockClient _ | .advanceHead .. | .storeSnapshot .. => row.clientColumns
  | .selectVersion .. =>
    (⟨row.text "version_id", row.text "parent_version_id",
      (row.bytes? "history_segment").getD []⟩ : Version)
  | .selectSnapshot _ => (⟨row.text? "snapshot_version_id", row.bytes? "snapshot"⟩ : SnapshotColumns)
  | .insertClient _ | .begin | .commit | .rollback | .insertVersion .. | .pruneVersions .. => ()

end Row

/-- A script and what was asked so far, the last first. -/
structure Rehearsal where
  /-- How checking out the connection fails, if it does. -/
  connect : Option Failure := none
  replies : List Scripted := []
  statements : List Statement := []
  released : List (Option Failure) := []
  ended : Nat := 0

namespace Rehearsal

def answer (statement : Statement) : StateM Rehearsal (Except Failure (List statement.Row)) := do
  let rehearsal ← get
  set { rehearsal with
    statements := statement :: rehearsal.statements
    replies := rehearsal.replies.tail }
  match rehearsal.replies.head? with
  | none => return .ok []
  | some (.failed failure) => return .error failure
  | some (.rows rows) => return .ok (rows.map (·.read statement))

def respond : (request : Request) → StateM Rehearsal request.Answer
  | .connect => do
    match (← get).connect with
    | some failure => return .error failure
    | none => return .ok ()
  | .run statement => answer statement
  | .release failure =>
    modify fun rehearsal => { rehearsal with released := failure :: rehearsal.released }
  | .endPool => modify fun rehearsal => { rehearsal with ended := rehearsal.ended + 1 }

/-- Plays a call, and tells what was asked in order. -/
def play {α : Type} (talk : Talk α) (script : Rehearsal) : α × Rehearsal :=
  let (value, rehearsal) := (talk.run respond).run script
  (value, { rehearsal with
    statements := rehearsal.statements.reverse
    released := rehearsal.released.reverse })

end Rehearsal

end TaskSync.Scenario
