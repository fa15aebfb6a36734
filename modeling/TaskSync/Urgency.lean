import TaskSync.Record

/-!
# Snapshot urgency

When a client is asked for a snapshot. Two measures count: the versions added
since the last snapshot, and the age of that snapshot in whole days.
-/

namespace TaskSync

inductive Urgency where
  | none
  | low
  | high
deriving DecidableEq

namespace Urgency

def rank : Urgency → Nat
  | none => 0
  | low => 1
  | high => 2

def max (a b : Urgency) : Urgency := if a.rank < b.rank then b else a

def name : Urgency → String
  | none => "none"
  | low => "low"
  | high => "high"

/-- Low once a value reaches its target, and high at one and a half times it, rounded down. -/
def level (value target : Number) : Urgency :=
  if ((target.scale 3).scale (1 / 2)).floor.le value then high
  else if target.le value then low
  else none

end Urgency

/-- The targets for the versions between two snapshots and for the days between them. -/
structure SnapshotPolicy where
  versions : Number := 100
  days : Number := 14
deriving DecidableEq

namespace SnapshotPolicy

def daysBetween (earlier later : Number) : Number :=
  ((later.sub earlier).scale (1 / 86400000)).floor

/-- The urgency for a count of versions and the time of the last snapshot. The age counts only if
there is a snapshot. -/
def urgency (policy : SnapshotPolicy) (count : Number) (taken : Option Number) (now : Number) :
    Urgency :=
  let byCount := Urgency.level count policy.versions
  match taken with
  | none => byCount
  | some time => byCount.max (Urgency.level (daysBetween time now) policy.days)

def urgencyOf (policy : SnapshotPolicy) (client : Client) (now : Number) : Urgency :=
  policy.urgency (.ofNat client.sinceSnapshot) client.snapshotTime now

end SnapshotPolicy

end TaskSync
