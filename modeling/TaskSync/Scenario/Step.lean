import TaskSync.Http.App
import TaskSync.Scenario.World

/-!
# Scenarios

Steps done one after the other in a world: calls of the store, of the engine and
of the application, and changes of the world itself.
-/

namespace TaskSync.Scenario

open Store

/-- A change of the database by another program. -/
inductive OutsideChange where
  | deleteClient (client : String)
  | insertClient (client : String)
  | countVersions (client : String)

inductive Step where
  | store (connection : Nat) (call : Call)
  | close (connection : Nat)
  | getChildVersion (client parent : String)
  | addVersion (client parent : String) (segment : Bytes)
  | addSnapshot (client version : String) (data : Bytes)
  | getSnapshot (client : String)
  | settings
  /-- Adds versions one behind the other. -/
  | chain (client : String) (count : Nat)
  | http (request : Http.Request)
  /-- Requests that are there at the same time. -/
  | concurrent (steps : List Step)
  /-- Follows the versions from one on. -/
  | walk (client start : String)
  | setClock (now : Number)
  | advance (duration : Number)
  | setTimer (values : List Number)
  | reopen
  | outside (change : OutsideChange)
  | setFault (fault : Fault)
  | clearFault (fault : Fault)

inductive Value where
  | nothing
  | reply {call : Call} (reply : call.Reply)
  | child (answer : ChildAnswer)
  | versionAdded (answer : AddVersionAnswer)
  | snapshotAdded (answer : AddSnapshotAnswer)
  | snapshotFound (snapshot : Option Snapshot)
  | settings (engine : Engine)
  /-- The urgencies of the versions added, and the last version. -/
  | chain (urgencies : List Urgency) (head : String)
  /-- The urgencies of the versions added before a conflict. -/
  | chainStopped (urgencies : List Urgency)
  | response (response : Http.Response)
  | several (results : List (Except Failure Value))
  | path (versions : List String) (cycle : Bool)
  /-- Everything was opened again, and whether there is a file. -/
  | reopened (onFile : Bool)
  | changes (count : Nat)
  | rows (count : Nat)

abbrev Result := Except Failure Value

open World (perform callStore)

def extend (engine : Engine) (client : String) : Nat → Nat → String → List Urgency →
    StateM World Result
  | 0, _, head, urgencies => return .ok (.chain urgencies.reverse head)
  | count + 1, index, head, urgencies => do
    match ← perform (engine.addVersion client head [UInt8.ofNat index]) with
    | .ok (.added version urgency) =>
      extend engine client count (index + 1) version (urgency :: urgencies)
    | .ok (.conflict _) => return .ok (.chainStopped urgencies.reverse)
    | .error failure => return .error failure

/-- Follows the versions from one on, until there is no more or one comes again. -/
def follow (client : String) : Nat → String → List String → StateM World Result
  | 0, _, path => return .ok (.path path.reverse false)
  | bound + 1, parent, path => do
    match ← callStore 0 (.getVersionByParent client parent) with
    | .ok (some version) =>
      if path.contains version.id then return .ok (.path path.reverse true)
      else follow client bound version.id (version.id :: path)
    | .ok none => return .ok (.path path.reverse false)
    | .error failure => return .error failure

def changeOutside (change : OutsideChange) : StateM World Result := do
  let world ← get
  let work : Work Value := match change with
    | .deleteClient client => Value.changes <$> Work.deleteClient client
    | .insertClient client => do
      Work.insertClient ⟨.fresh client, none⟩
      return .changes 1
    | .countVersions client => do
      return .rows ((← get : Database).versions.countP (·.client = client))
  let (result, backing) := world.backing.outside work
  set { world with backing }
  return result

mutual

def Step.run (app : Http.App) : Step → StateM World Result
  | .store connection call => return (← callStore connection call).map fun r => .reply r
  | .close connection => do
    modify fun world => { world with backing := world.backing.close connection }
    return .ok .nothing
  | .getChildVersion client parent =>
    return (← perform (app.engine.getChildVersion client parent)).map .child
  | .addVersion client parent segment =>
    return (← perform (app.engine.addVersion client parent segment)).map .versionAdded
  | .addSnapshot client version data =>
    return (← perform (app.engine.addSnapshot client version data)).map .snapshotAdded
  | .getSnapshot client => return (← perform (app.engine.getSnapshot client)).map .snapshotFound
  | .settings => return .ok (.settings app.engine)
  | .chain client count => do
    match ← callStore 0 (.getClient client) with
    | .ok record => extend app.engine client count 0 ((record.map (·.head)).getD nilId) []
    | .error failure => return .error failure
  | .http request => return .ok (.response (← (app.respond request).run World.respond))
  | .concurrent steps => return .ok (.several (← runSteps app steps))
  | .walk client start => do follow client (← get).backing.bound start []
  | .setClock now => do
    modify fun world => { world with now }
    return .ok .nothing
  | .advance duration => do
    modify fun world => { world with now := world.now.add duration }
    return .ok .nothing
  | .setTimer values => do
    modify fun world => { world with timer := world.timer ++ values }
    return .ok .nothing
  | .reopen => do
    modify fun world => { world with backing := world.backing.reopen }
    return .ok (.reopened (← get).backing.isOnFile)
  | .outside change => changeOutside change
  | .setFault fault => do
    modify fun world => { world with backing := world.backing.changeFaults (fault :: ·) }
    return .ok .nothing
  | .clearFault fault => do
    modify fun world => { world with backing := world.backing.changeFaults (·.filter (· ≠ fault)) }
    return .ok .nothing

def runSteps (app : Http.App) : List Step → StateM World (List Result)
  | [] => return []
  | step :: rest => do
    let result ← step.run app
    return result :: (← runSteps app rest)

end

/-- What is seen after a step: its result, the records of the watched clients, and what was logged
meanwhile. -/
structure Observation where
  result : Result
  watched : List (Except Failure (Option Client))
  journal : List Journal.Entry

def observe (app : Http.App) (watched : List String) (step : Step) : StateM World Observation := do
  modify fun world => { world with journal := [] }
  let result ← step.run app
  let journal := (← get).journal.reverse
  let records ← watched.mapM fun client => callStore 0 (.getClient client)
  return ⟨result, records, journal⟩

def play (world : World) (app : Http.App) (watched : List String) (steps : List Step) :
    List Observation :=
  ((steps.mapM (observe app watched)).run world).1

end TaskSync.Scenario
