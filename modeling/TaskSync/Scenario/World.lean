import TaskSync.Operation
import TaskSync.Store.Embedded
import TaskSync.Store.Memory

/-!
# A world for operations

What an operation can ask, held in one state: a store, clocks that are set by
hand, ids that are known in advance, and the journal. The store can be made to
misbehave in front of the engine.
-/

namespace TaskSync.Scenario

open Store

/-- A database that is there for several connections. -/
structure Hosted where
  database : Database := .empty
  /-- The events that fail. -/
  faults : List Fault := []
  closed : List Nat := []
  /-- Whether the database outlives its connections. -/
  onFile : Bool := false

inductive Backing where
  | memory (state : Memory)
  | embedded (host : Hosted)
  /-- A store that nobody can reach. -/
  | unreachable (failure : Failure)

namespace Hosted

def run {α : Type} (work : Work α) (host : Hosted) : Except Failure α × Hosted :=
  let (result, database) := work host.faults host.database
  (result, { host with database })

end Hosted

namespace Backing

/-- Puts a call to the store over a connection. -/
def call (connection : Nat) (now : Number) (c : Call) : Backing → Except Failure c.Reply × Backing
  | memory state =>
    let (reply, state) := state.call now c
    (reply, memory state)
  | embedded host =>
    if host.closed.contains connection then (.error (Embedded.closed c), embedded host)
    else
      let (reply, host) := host.run (Embedded.call now c)
      (reply, embedded host)
  | unreachable failure => (.error failure, unreachable failure)

/-- Closes a connection. The store in memory forgets everything. -/
def close (connection : Nat) : Backing → Backing
  | memory _ => memory .empty
  | embedded host => embedded { host with closed := connection :: host.closed }
  | unreachable failure => unreachable failure

def isOnFile : Backing → Bool
  | embedded host => host.onFile
  | _ => false

def reopen : Backing → Backing
  | memory _ => memory .empty
  | embedded host => embedded (if host.onFile then { host with closed := [] } else {})
  | unreachable failure => unreachable failure

def outside {α : Type} (work : Work α) : Backing → Except Failure α × Backing
  | embedded host =>
    let (result, host) := host.run work.atomically
    (result, embedded host)
  | other => (.error (.plain "there is no database"), other)

def changeFaults (change : List Fault → List Fault) : Backing → Backing
  | embedded host => embedded { host with faults := change host.faults }
  | other => other

/-- More than the number of versions that one client can have. -/
def bound : Backing → Nat
  | memory state =>
    state.chains.entries.foldl (fun most entry => max most entry.2.children.entries.length) 0 + 1
  | embedded host => host.database.versions.length + 1
  | unreachable _ => 1

end Backing

inductive Method where
  | getClient
  | createClient
  | getVersionByParent
  | addVersion
  | addSnapshot
  | getSnapshot
deriving DecidableEq

def methodOf : Call → Method
  | .getClient _ => .getClient
  | .createClient _ => .createClient
  | .getVersionByParent .. => .getVersionByParent
  | .addVersion .. => .addVersion
  | .addSnapshot .. => .addSnapshot
  | .getSnapshot _ => .getSnapshot

/-- An answer given in place of the store's. -/
inductive Canned where
  | failed (failure : Failure)
  | record (client : Option Client)
  | found (version : Option Version)
  | appended (answer : Appended)
  | stored (answer : Stored)
  | kept (snapshot : Option Snapshot)

/-- The answer to a call, if it is one to such a call. -/
def Canned.for? : Canned → (c : Call) → Option (Except Failure c.Reply)
  | failed failure, _ => some (.error failure)
  | record client, .getClient _ => some (.ok client)
  | record (some client), .createClient _ => some (.ok client)
  | found version, .getVersionByParent .. => some (.ok version)
  | appended answer, .addVersion .. => some (.ok answer)
  | stored answer, .addSnapshot .. => some (.ok answer)
  | kept snapshot, .getSnapshot _ => some (.ok snapshot)
  | _, _ => none

/-- What happens at some calls of a kind: at one of them, counted from one, or at all. -/
structure Misbehaviour where
  method : Method
  at? : Option Nat
  answer : Canned

structure World where
  backing : Backing
  now : Number := 1700000000000
  /-- The ids that are drawn first. -/
  ids : List String := []
  drawn : Nat := 0
  /-- What the stopwatch shows next. Then it stands at zero. -/
  timer : List Number := []
  misbehaviours : List Misbehaviour := []
  /-- The kinds of the calls that the engine has made. -/
  made : List Method := []
  logger : Option Journal.Level := none
  /-- What was logged, the last entry first. -/
  journal : List Journal.Entry := []

namespace World

/-- The id drawn after others, where none is given in advance. -/
def numberedId (n : Nat) : String :=
  let digits := Nat.toDigits 16 n
  "00000000-0000-4000-8000-" ++ String.ofList (List.replicate (12 - digits.length) '0' ++ digits)

def drawId : StateM World String := do
  let world ← get
  set { world with drawn := world.drawn + 1 }
  return world.ids.getD world.drawn (numberedId (world.drawn + 1))

def callStore (connection : Nat) (c : Call) : StateM World (Except Failure c.Reply) := do
  let world ← get
  let (reply, backing) := world.backing.call connection world.now c
  set { world with backing }
  return reply

/-- Puts a call of the engine to the store, or has it misbehave. -/
def callFromEngine (c : Call) : StateM World (Except Failure c.Reply) := do
  let method := methodOf c
  modify fun world => { world with made := method :: world.made }
  let world ← get
  let count := world.made.count method
  let due := world.misbehaviours.find? fun m =>
    m.method = method && (m.at?.isNone || m.at? = some count)
  match due.bind fun m => m.answer.for? c with
  | some reply => return reply
  | none => callStore 0 c

def note (entry : Journal.Entry) : StateM World Unit :=
  modify fun world =>
    if world.logger.any fun level => level.shows entry.level then
      { world with journal := entry :: world.journal }
    else world

def readTimer : StateM World Number := do
  let world ← get
  set { world with timer := world.timer.tail }
  return world.timer.headD 0

def respond : (question : Ask) → StateM World question.Answer
  | .store c => callFromEngine c
  | .freshId => drawId
  | .now => return (← get).now
  | .stopwatch => readTimer
  | .note entry => note entry

def perform {α : Type} (operation : Operation α) : StateM World (Except Failure α) :=
  operation.run.run respond

end World

end TaskSync.Scenario
