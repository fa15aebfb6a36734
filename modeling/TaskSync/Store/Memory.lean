import TaskSync.Failure
import TaskSync.Store.Call
import TaskSync.Store.Table

/-!
# The store in memory

For every client its record, its snapshot, and its versions by id, with the id
that follows each parent. A version id or a parent that is used again takes the
place of the older entry.
-/

namespace TaskSync.Store

structure Chain where
  client : Client
  snapshot : Option Bytes := none
  versions : Table Version := ⟨[]⟩
  /-- The id of the version that follows a parent. -/
  children : Table String := ⟨[]⟩
deriving DecidableEq

namespace Chain

def fresh (client : String) : Chain := ⟨.fresh client, none, ⟨[]⟩, ⟨[]⟩⟩

def child? (chain : Chain) (parent : String) : Option Version :=
  (chain.children.get? parent).bind chain.versions.get?

def append (chain : Chain) (version : Version) : Chain :=
  { chain with
    client := chain.client.advance version.id
    versions := chain.versions.set version.id version
    children := chain.children.set version.parent version.id }

def takeSnapshot (chain : Chain) (version : String) (data : Bytes) (time : Number) : Chain :=
  { chain with
    client := chain.client.snapshotTaken version (some time)
    snapshot := some data }

/-- Only the version with an id stays. -/
def keepOnly (chain : Chain) (id : String) : Chain :=
  match chain.versions.get? id with
  | some version =>
    { chain with versions := ⟨[(version.id, version)]⟩, children := ⟨[(version.parent, version.id)]⟩ }
  | none => { chain with versions := ⟨[]⟩, children := ⟨[]⟩ }

def snapshot? (chain : Chain) : Option Snapshot := do
  let data ← chain.snapshot
  let version ← chain.client.snapshotVersion
  return ⟨version, data⟩

end Chain

structure Memory where
  chains : Table Chain := ⟨[]⟩
deriving DecidableEq

namespace Memory

def empty : Memory := ⟨⟨[]⟩⟩

def get? (m : Memory) (client : String) : Option Chain := m.chains.get? client

def put (m : Memory) (client : String) (chain : Chain) : Memory := ⟨m.chains.set client chain⟩

@[simp] theorem get?_put (m : Memory) (client : String) (chain : Chain) (other : String) :
    (m.put client chain).get? other = if other = client then some chain else m.get? other := by
  simp [get?, put]

def createClient (m : Memory) (client : String) : Except Failure Client × Memory :=
  match m.get? client with
  | some _ => (.error (.clientAlreadyExists client), m)
  | none => (.ok (.fresh client), m.put client (.fresh client))

def addVersion (m : Memory) (client parent version : String) (segment : Bytes) :
    Except Failure Appended × Memory :=
  match m.get? client with
  | none => (.error (.noSuchClient client), m)
  | some chain =>
    if chain.client.head = parent then
      let chain := chain.append ⟨version, parent, segment⟩
      (.ok (.committed chain.client), m.put client chain)
    else (.ok (.conflict chain.client.head), m)

def addSnapshot (m : Memory) (now : Number) (client version : String) (data : Bytes)
    (prune : Bool) : Except Failure Stored × Memory :=
  match m.get? client with
  | none => (.error (.noSuchClient client), m)
  | some chain =>
    if chain.client.head = version then
      let chain := chain.takeSnapshot version data now
      let chain := if prune then chain.keepOnly version else chain
      (.ok (.accepted chain.client), m.put client chain)
    else (.ok (.mismatch chain.client.head), m)

def call (now : Number) (m : Memory) : (call : Call) → Except Failure call.Reply × Memory
  | .getClient client => (.ok ((m.get? client).map (·.client)), m)
  | .createClient client => m.createClient client
  | .getVersionByParent client parent => (.ok ((m.get? client).bind (·.child? parent)), m)
  | .addVersion client parent version segment => m.addVersion client parent version segment
  | .addSnapshot client version data prune => m.addSnapshot now client version data prune
  | .getSnapshot client => (.ok ((m.get? client).bind (·.snapshot?)), m)

end Memory

end TaskSync.Store
