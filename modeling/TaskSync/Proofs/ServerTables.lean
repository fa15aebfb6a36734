import TaskSync.Proofs.Decimals
import TaskSync.Scenario.Script
import TaskSync.Store.Relations
import TaskSync.Uuid

/-!
# What the statements say

The two tables of the database server, and what it does as the text of a
statement says: the fragment of the language that the statements are written in,
with its text and its meaning. The values for the placeholders are taken by
position, and read by the type of the column that they are for.
-/

namespace TaskSync.Store.Sql

/-! ## Tables -/

inductive Kind where
  | uuid
  /-- Four bytes. -/
  | integer
  /-- Eight bytes. The driver returns them as text. -/
  | bigint
  | bytea
deriving DecidableEq

inductive Datum where
  | null
  | uuid (value : String)
  | whole (value : Int)
  | bytes (value : Bytes)
deriving DecidableEq

structure Column where
  name : String
  kind : Kind
  required : Bool := false
  default : Datum := .null

def Kind.holds : Kind → Datum → Bool
  | .uuid, .uuid _ => true
  | .integer, .whole value => -2 ^ 31 ≤ value && value < 2 ^ 31
  | .bigint, .whole value => -2 ^ 63 ≤ value && value < 2 ^ 63
  | .bytea, .bytes _ => true
  | _, _ => false

def Column.admits (column : Column) (datum : Datum) : Bool :=
  if datum = .null then !column.required else column.kind.holds datum

def tableName : Relation → String
  | .clients => "clients"
  | .versions => "versions"

def columns : Relation → List Column
  | .clients => [⟨"client_id", .uuid, true, .null⟩, ⟨"latest_version_id", .uuid, true, .uuid nilId⟩,
      ⟨"snapshot_version_id", .uuid, false, .null⟩,
      ⟨"versions_since_snapshot", .integer, true, .whole 0⟩,
      ⟨"snapshot_timestamp", .bigint, false, .null⟩, ⟨"snapshot", .bytea, false, .null⟩]
  | .versions => [⟨"client_id", .uuid, true, .null⟩, ⟨"version_id", .uuid, true, .null⟩,
      ⟨"parent_version_id", .uuid, true, .null⟩, ⟨"history_segment", .bytea, true, .null⟩]

def keys : Relation → List (List String)
  | .clients => [["client_id"]]
  | .versions => [["client_id", "version_id"], ["client_id", "parent_version_id"]]

/-- The columns that hold a key of another table. -/
def references : Relation → List (String × Relation × String)
  | .clients => []
  | .versions => [("client_id", .clients, "client_id")]

def kindOf? (relation : Relation) (name : String) : Option Kind :=
  ((columns relation).find? (·.name = name)).map (·.kind)

abbrev Tuple := List (String × Datum)

namespace Tuple

def get (t : Tuple) (name : String) : Datum := ((t.find? (·.1 = name)).map (·.2)).getD .null

def set (t : Tuple) (name : String) (datum : Datum) : Tuple :=
  t.map fun cell => if cell.1 = name then (name, datum) else cell

/-- Both rows have the same values in some columns. Nothing is the same as no value. -/
def agrees (names : List String) (t u : Tuple) : Bool :=
  names.all fun name => t.get name ≠ .null && t.get name = u.get name

def fits (relation : Relation) (t : Tuple) : Bool :=
  (columns relation).all fun column => column.admits (t.get column.name)

end Tuple

structure Tables where
  clients : List Tuple := []
  versions : List Tuple := []
deriving DecidableEq

namespace Tables

def rows (tables : Tables) : Relation → List Tuple
  | .clients => tables.clients
  | .versions => tables.versions

def put (tables : Tables) (relation : Relation) (rows : List Tuple) : Tables :=
  match relation with
  | .clients => { tables with clients := rows }
  | .versions => { tables with versions := rows }

end Tables

/-! ## The language -/

/-- A column and a placeholder, compared. -/
structure Condition where
  column : String
  equal : Bool
  placeholder : Nat

inductive Term where
  | placeholder (n : Nat)
  | number (value : Nat)
  | sum (column : String) (value : Nat)

inductive Query where
  | begin
  | commit
  | rollback
  | select (names : List String) (source : Relation) (conditions : List Condition) (lock : Bool)
  /-- A row with the placeholders in order. Where a conflict is named, it is no failure. -/
  | insert (target : Relation) (names : List String) (conflict : List String)
      (returning : List String)
  | update (target : Relation) (assignments : List (String × Term)) (conditions : List Condition)
      (returning : List String)
  | delete (source : Relation) (conditions : List Condition)

def commas (words : List String) : String := ", ".intercalate words

def dollar (n : Nat) : String := "$" ++ n.repr

def Condition.text (c : Condition) : String :=
  c.column ++ (if c.equal then " = " else " <> ") ++ dollar c.placeholder

def Term.text : Term → String
  | .placeholder n => dollar n
  | .number value => value.repr
  | .sum column value => column ++ " + " ++ value.repr

def whereText (conditions : List Condition) : String :=
  " WHERE " ++ " AND ".intercalate (conditions.map Condition.text)

def returningText : List String → String
  | [] => ""
  | names => " RETURNING " ++ commas names

def conflictText : List String → String
  | [] => ""
  | names => " ON CONFLICT (" ++ commas names ++ ") DO NOTHING"

def Query.text : Query → String
  | .begin => "BEGIN"
  | .commit => "COMMIT"
  | .rollback => "ROLLBACK"
  | .select names source conditions lock =>
    "SELECT " ++ commas names ++ " FROM " ++ tableName source ++ whereText conditions ++
      (if lock then " FOR UPDATE" else "")
  | .insert target names conflict returning =>
    "INSERT INTO " ++ tableName target ++ " (" ++ commas names ++ ") VALUES (" ++
      commas ((List.range' 1 names.length).map dollar) ++ ")" ++ conflictText conflict ++
      returningText returning
  | .update target assignments conditions returning =>
    "UPDATE " ++ tableName target ++ " SET " ++
      commas (assignments.map fun a => a.1 ++ " = " ++ a.2.text) ++ whereText conditions ++
      returningText returning
  | .delete source conditions => "DELETE FROM " ++ tableName source ++ whereText conditions

/-! ## The statements in the language -/

def clientNames : List String :=
  ["client_id", "latest_version_id", "snapshot_version_id", "versions_since_snapshot",
    "snapshot_timestamp"]

/-- What is written in a statement, whatever values it is sent with. -/
def parse : Statement → Query
  | .begin => .begin
  | .commit => .commit
  | .rollback => .rollback
  | .selectClient _ => .select clientNames .clients [⟨"client_id", true, 1⟩] false
  | .lockClient _ => .select clientNames .clients [⟨"client_id", true, 1⟩] true
  | .insertClient _ => .insert .clients ["client_id"] ["client_id"] ["client_id"]
  | .selectVersion .. =>
    .select ["version_id", "parent_version_id", "history_segment"] .versions
      [⟨"client_id", true, 1⟩, ⟨"parent_version_id", true, 2⟩] false
  | .insertVersion .. =>
    .insert .versions ["client_id", "version_id", "parent_version_id", "history_segment"] [] []
  | .advanceHead .. =>
    .update .clients [("latest_version_id", .placeholder 1),
      ("versions_since_snapshot", .sum "versions_since_snapshot" 1)] [⟨"client_id", true, 2⟩]
      clientNames
  | .storeSnapshot .. =>
    .update .clients [("snapshot_version_id", .placeholder 1),
      ("snapshot_timestamp", .placeholder 2), ("versions_since_snapshot", .number 0),
      ("snapshot", .placeholder 3)] [⟨"client_id", true, 4⟩] clientNames
  | .pruneVersions .. =>
    .delete .versions [⟨"client_id", true, 1⟩, ⟨"version_id", false, 2⟩]
  | .selectSnapshot _ =>
    .select ["snapshot_version_id", "snapshot"] .clients [⟨"client_id", true, 1⟩] false

theorem parse_text (statement : Statement) : (parse statement).text = statement.sql := by
  cases statement <;> rfl

/-! ## What a query does -/

/-- A value sent for a column of some type. -/
def read? : Kind → Parameter → Option Datum
  | .uuid, .text value => (Uuid.read? value).map .uuid
  | .integer, .number value | .bigint, .number value => value.toInt?.map .whole
  | .bytea, .bytes value => some (.bytes value)
  | _, _ => none

/-- The value for a placeholder. Placeholders are counted from one. -/
def value? (relation : Relation) (sent : List Parameter) (column : String) (n : Nat) :
    Option Datum := do
  read? (← kindOf? relation column) (← sent[n - 1]?)

/-- Whether a row meets a condition. A comparison with no value is never met. -/
def Condition.met (c : Condition) (value : Datum) (t : Tuple) : Bool :=
  t.get c.column ≠ .null && decide (t.get c.column = value) == c.equal

def chosen? (relation : Relation) (sent : List Parameter) (conditions : List Condition) :
    Option (Tuple → Bool) := do
  let tests ← conditions.mapM fun c =>
    (value? relation sent c.column c.placeholder).map c.met
  return fun t => tests.all (· t)

def Datum.plus (value : Int) : Datum → Datum
  | .whole n => .whole (n + value)
  | _ => .null

def Term.bind? (relation : Relation) (sent : List Parameter) (target : String) :
    Term → Option (Tuple → Datum)
  | .placeholder n => (value? relation sent target n).map fun value _ => value
  | .number value => some fun _ => .whole value
  | .sum column value => some fun t => (t.get column).plus value

/-- The row after assignments, all of which read the row before. -/
def assign? (relation : Relation) (sent : List Parameter) (assignments : List (String × Term)) :
    Option (Tuple → Tuple) := do
  let bound ← assignments.mapM fun a => (a.2.bind? relation sent a.1).map (a.1, ·)
  return fun t => bound.foldl (fun row a => row.set a.1 (a.2 t)) t

/-- A row with the values sent for some columns, and the defaults of the others. -/
def newRow? (relation : Relation) (sent : List Parameter) (names : List String) :
    Option Tuple := do
  let given ← (names.zipIdx 1).mapM fun cell =>
    (value? relation sent cell.1 cell.2).map (cell.1, ·)
  return (columns relation).map fun column =>
    (column.name, (given.lookup column.name).getD column.default)

/-- A value as the driver returns it. -/
def Datum.cell : Kind → Datum → Scenario.Cell
  | _, .null => .null
  | _, .uuid value => .text value
  | .bigint, .whole value => .text (String.ofList (Number.decimal value))
  | _, .whole value => .number (.finite value)
  | _, .bytes value => .bytes value

def project (relation : Relation) (names : List String) (t : Tuple) : Scenario.Row :=
  names.map fun name =>
    (name, ((kindOf? relation name).map fun kind => (t.get name).cell kind).getD .null)

def returned (relation : Relation) (names : List String) (rows : List Tuple) :
    List Scenario.Row :=
  if names.isEmpty then [] else rows.map (project relation names)

/-- Whether a row may be added: it has values where it must, repeats no key, and the rows that it
names are there. -/
def Tables.takes (tables : Tables) (relation : Relation) (row : Tuple) : Bool :=
  row.fits relation &&
    (keys relation).all (fun key => !(tables.rows relation).any (·.agrees key row)) &&
    (references relation).all fun (name, target, key) =>
      (tables.rows target).any fun other => other.get key = row.get name

/-- The rows that a query returns and the tables that it leaves, or nothing if it is rejected. A key
is never assigned in the fragment, and only versions are deleted, which no row names. -/
def Query.execute (sent : List Parameter) (tables : Tables) :
    Query → Option (List Scenario.Row × Tables)
  | .begin | .commit | .rollback => some ([], tables)
  | .select names source conditions _ => do
    let chosen ← chosen? source sent conditions
    return (returned source names ((tables.rows source).filter chosen), tables)
  | .insert target names conflict returning => do
    let row ← newRow? target sent names
    if !conflict.isEmpty && (tables.rows target).any (·.agrees conflict row) then
      return ([], tables)
    else if tables.takes target row then
      return (returned target returning [row],
        tables.put target (tables.rows target ++ [row]))
    else none
  | .update target assignments conditions returning => do
    let chosen ← chosen? target sent conditions
    let assign ← assign? target sent assignments
    let changed := ((tables.rows target).filter chosen).map assign
    if changed.all (·.fits target) then
      return (returned target returning changed,
        tables.put target ((tables.rows target).map fun t => if chosen t then assign t else t))
    else none
  | .delete source conditions => do
    let chosen ← chosen? source sent conditions
    return ([], tables.put source ((tables.rows source).filter fun t => !chosen t))

/-! ## The server -/

/-- The tables, and what they were when the transaction began. -/
structure Session where
  tables : Tables := {}
  saved : Option Tables := none

def rejected : Failure := .foreign "error" "the statement was rejected"

namespace Session

def rollback (s : Session) : Session := { tables := s.saved.getD s.tables }

/-- Carries out a query, which changes nothing if it is rejected. -/
def execute (s : Session) (sent : List Parameter) : Query → Option (List Scenario.Row) × Session
  | .begin => (some [], { s with saved := some s.tables })
  | .commit => (some [], { s with saved := none })
  | .rollback => (some [], s.rollback)
  | query => match query.execute sent s.tables with
    | some (rows, tables) => (some rows, { s with tables })
    | none => (none, s)

def answer (statement : Statement) (s : Session) :
    Except Failure (List statement.Row) × Session :=
  match s.execute (statement.parameters.getD []) (parse statement) with
  | (some rows, after) => (.ok (rows.map (·.read statement)), after)
  | (none, after) => (.error rejected, after)

/-- A connection can always be had. -/
def respond : (request : Request) → StateM Session request.Answer
  | .connect => return .ok ()
  | .run statement => modifyGet (answer statement)
  | .release _ | .endPool => return ()

end Session

end TaskSync.Store.Sql
