import TaskSync.Number.Basic

/-!
# Records

What is kept for a client: a chain of versions, each naming its parent, and at
most one snapshot. Contents are opaque bytes.
-/

namespace TaskSync

abbrev Bytes := List UInt8

/-- The id that stands for no version. It is the parent of a chain's first version. -/
def nilId : String := "00000000-0000-0000-0000-000000000000"

structure Client where
  id : String
  /-- The last version of the chain, or the nil id. -/
  head : String
  snapshotVersion : Option String
  /-- How many versions were added since the snapshot, or since the start if there is none. -/
  sinceSnapshot : Nat
  /-- When the snapshot was taken, in milliseconds. -/
  snapshotTime : Option Number
deriving DecidableEq

def Client.fresh (id : String) : Client := ⟨id, nilId, none, 0, none⟩

structure Version where
  id : String
  parent : String
  segment : Bytes
deriving DecidableEq

structure Snapshot where
  version : String
  data : Bytes
deriving DecidableEq

namespace Client

def advance (client : Client) (version : String) : Client :=
  { client with head := version, sinceSnapshot := client.sinceSnapshot + 1 }

def snapshotTaken (client : Client) (version : String) (time : Option Number) : Client :=
  { client with snapshotVersion := some version, snapshotTime := time, sinceSnapshot := 0 }

end Client

end TaskSync
