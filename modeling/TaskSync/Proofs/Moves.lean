import TaskSync.Proofs.Contract

/-!
# What a call can do

All that a call can do to the record and the snapshot of its client, whatever ids
are used. Nothing else can happen in either store while nothing fails: what is
kept for other clients stays, and a call that was not granted leaves the store
as it was.
-/

namespace TaskSync.Store

/-- How a call goes, by what is kept for its client before: what is answered, and what is kept
then. -/
inductive Goes (stamp : Number → Option Number) (time : Number) (before : Option ClientRow) :
    (c : Call) → Except Failure c.Reply → Option ClientRow → Prop where
  | getClient (client : String) :
      Goes stamp time before (.getClient client) (.ok (before.map (·.record))) before
  | getVersionByParent (client parent : String) (version : Option Version) :
      Goes stamp time before (.getVersionByParent client parent) (.ok version) before
  | getSnapshot (client : String) :
      Goes stamp time before (.getSnapshot client) (.ok (before.bind Embedded.snapshot?)) before
  | created (client : String) (unknown : before = none) :
      Goes stamp time before (.createClient client) (.ok (.fresh client))
        (some ⟨.fresh client, none⟩)
  | exists (client : String) :
      Goes stamp time before (.createClient client) (.error (.clientAlreadyExists client)) before
  | committed (client version : String) (segment : Bytes) {row : ClientRow}
      (known : before = some row) :
      Goes stamp time before (.addVersion client row.record.head version segment)
        (.ok (.committed (row.record.advance version)))
        (some { row with record := row.record.advance version })
  | conflict (client version : String) (segment : Bytes) {parent : String} {row : ClientRow}
      (known : before = some row) (behind : row.record.head ≠ parent) :
      Goes stamp time before (.addVersion client parent version segment)
        (.ok (.conflict row.record.head)) before
  | notAdded (client parent version : String) (segment : Bytes) (failure : Failure) :
      Goes stamp time before (.addVersion client parent version segment) (.error failure) before
  | accepted (client : String) (data : Bytes) (prune : Bool) {row : ClientRow}
      (known : before = some row) :
      Goes stamp time before (.addSnapshot client row.record.head data prune)
        (.ok (.accepted (row.record.snapshotTaken row.record.head (stamp time))))
        (some ⟨row.record.snapshotTaken row.record.head (stamp time), some data⟩)
  | mismatch (client : String) (data : Bytes) (prune : Bool) {version : String} {row : ClientRow}
      (known : before = some row) (stale : row.record.head ≠ version) :
      Goes stamp time before (.addSnapshot client version data prune)
        (.ok (.mismatch row.record.head)) before
  | notTaken (client version : String) (data : Bytes) (prune : Bool) (unknown : before = none) :
      Goes stamp time before (.addSnapshot client version data prune)
        (.error (.noSuchClient client)) before

namespace Goes

variable {stamp : Number → Option Number} {time : Number} {before after : Option ClientRow}

theorem getClient_reply {client : String} {reply : Except Failure (Option Client)}
    (goes : Goes stamp time before (.getClient client) reply after) :
    reply = .ok (before.map (·.record)) := by
  cases goes
  rfl

theorem getSnapshot_reply {client : String} {reply : Except Failure (Option Snapshot)}
    (goes : Goes stamp time before (.getSnapshot client) reply after) :
    reply = .ok (before.bind Embedded.snapshot?) := by
  cases goes
  rfl

theorem accepted_known {client version : String} {data : Bytes} {prune : Bool} {record : Client}
    (goes : Goes stamp time before (.addSnapshot client version data prune) (.ok (.accepted record))
      after) : ∃ row, before = some row ∧ row.record.head = version := by
  cases goes with
  | accepted client data prune known => exact ⟨_, known, rfl⟩

theorem stale_reply {client version : String} {data : Bytes} {prune : Bool}
    {reply : Except Failure Stored} {row : ClientRow}
    (goes : Goes stamp time before (.addSnapshot client version data prune) reply after)
    (known : before = some row) (stale : row.record.head ≠ version) :
    reply = .ok (.mismatch row.record.head) := by
  cases goes with
  | accepted client data prune known' =>
    obtain rfl := Option.some.inj (known'.symm.trans known)
    exact absurd rfl stale
  | mismatch client data prune known' stale' =>
    obtain rfl := Option.some.inj (known'.symm.trans known)
    rfl
  | notTaken client version data prune unknown =>
    rw [unknown] at known
    cases known

theorem unknown_reply {client version : String} {data : Bytes} {prune : Bool}
    {reply : Except Failure Stored}
    (goes : Goes stamp time before (.addSnapshot client version data prune) reply after)
    (unknown : before = none) : reply = .error (.noSuchClient client) := by
  cases goes with
  | accepted client data prune known =>
    rw [unknown] at known
    cases known
  | mismatch client data prune known stale =>
    rw [unknown] at known
    cases known
  | notTaken client version data prune unknown => rfl

end Goes

/-- Whether a call was granted a write. -/
def Call.granted : (c : Call) → Except Failure c.Reply → Bool
  | .createClient _, .ok _ => true
  | .addVersion .., .ok (.committed _) => true
  | .addSnapshot .., .ok (.accepted _) => true
  | _, _ => false

/-- A call goes so for its client, and what is kept for others stays. -/
structure Moves (stamp : Number → Option Number) (time : Number) (c : Call)
    (reply : Except Failure c.Reply) (before after : String → Option ClientRow) : Prop where
  goes : Goes stamp time (before c.client) c reply (after c.client)
  others : ∀ other, other ≠ c.client → after other = before other

theorem Moves.stays {stamp : Number → Option Number} {time : Number} {c : Call}
    {reply : Except Failure c.Reply} {rows : String → Option ClientRow}
    (goes : Goes stamp time (rows c.client) c reply (rows c.client)) :
    Moves stamp time c reply rows rows :=
  ⟨goes, fun _ _ => rfl⟩

/-! ## In memory -/

namespace Memory

def row? (m : Memory) (client : String) : Option ClientRow :=
  (m.get? client).map fun chain => ⟨chain.client, chain.snapshot⟩

theorem row?_put (m : Memory) (client : String) (chain : Chain) (other : String) :
    (m.put client chain).row? other =
      if other = client then some ⟨chain.client, chain.snapshot⟩ else m.row? other := by
  unfold row?
  rw [get?_put]
  split <;> rfl

theorem row?_of_get? {m : Memory} {client : String} {chain : Chain}
    (hm : m.get? client = some chain) : m.row? client = some ⟨chain.client, chain.snapshot⟩ := by
  unfold row?
  rw [hm, Option.map_some]

theorem client_keepOnly (chain : Chain) (id : String) :
    (chain.keepOnly id).client = chain.client := by
  unfold Chain.keepOnly
  split <;> rfl

theorem snapshot_keepOnly (chain : Chain) (id : String) :
    (chain.keepOnly id).snapshot = chain.snapshot := by
  unfold Chain.keepOnly
  split <;> rfl

variable (m : Memory) (time : Number)

theorem moves_put {c : Call} {reply : Except Failure c.Reply} {chain : Chain}
    (goes : Goes some time (m.row? c.client) c reply (some ⟨chain.client, chain.snapshot⟩)) :
    Moves some time c reply m.row? (m.put c.client chain).row? where
  goes := by
    rw [row?_put, if_pos rfl]
    exact goes
  others := by
    intro other ho
    rw [row?_put, if_neg ho]

theorem moves (c : Call) : Moves some time c (m.call time c).1 m.row? (m.call time c).2.row? := by
  cases c with
  | getClient client =>
    refine .stays ?_
    have hrecord : (m.get? client).map (·.client) = (m.row? client).map (·.record) := by
      simp [row?, Function.comp_def]
    simp only [call, hrecord]
    exact .getClient client
  | getVersionByParent client parent => exact .stays (.getVersionByParent ..)
  | getSnapshot client =>
    refine .stays ?_
    have hsnapshot : (m.get? client).bind (·.snapshot?) =
        (m.row? client).bind Embedded.snapshot? := by
      unfold row?
      cases m.get? client <;> rfl
    simp only [call, hsnapshot]
    exact .getSnapshot client
  | createClient client =>
    cases hm : m.get? client with
    | none =>
      have unknown : m.row? client = none := by simp [row?, hm]
      simp only [call, createClient, hm]
      exact m.moves_put time (.created client unknown)
    | some chain =>
      simp only [call, createClient, hm]
      exact .stays (.exists client)
  | addVersion client parent version segment =>
    cases hm : m.get? client with
    | none =>
      simp only [call, addVersion, hm]
      exact .stays (.notAdded ..)
    | some chain =>
      have known := row?_of_get? hm
      by_cases head : chain.client.head = parent
      · subst head
        simp only [call, addVersion, hm, if_true]
        exact m.moves_put time (.committed client version segment known)
      · simp only [call, addVersion, hm, if_neg head]
        exact .stays (.conflict client version segment known head)
  | addSnapshot client version data prune =>
    cases hm : m.get? client with
    | none =>
      have unknown : m.row? client = none := by simp [row?, hm]
      simp only [call, addSnapshot, hm]
      exact .stays (.notTaken client version data prune unknown)
    | some chain =>
      have known := row?_of_get? hm
      by_cases head : chain.client.head = version
      · subst head
        have goes : Goes some time _ _ _ _ := .accepted client data prune known
        cases prune with
        | false =>
          simp only [call, addSnapshot, hm, if_true, Bool.false_eq_true, if_false]
          exact m.moves_put time goes
        | true =>
          simp only [call, addSnapshot, hm, if_true, client_keepOnly]
          refine m.moves_put time ?_
          rw [client_keepOnly, snapshot_keepOnly]
          exact goes
      · simp only [call, addSnapshot, hm, if_neg head]
        exact .stays (.mismatch client data prune known head)

theorem call_of_not_granted {c : Call} (refused : c.granted (m.call time c).1 = false) :
    (m.call time c).2 = m := by
  cases c with
  | getClient client => rfl
  | getVersionByParent client parent => rfl
  | getSnapshot client => rfl
  | createClient client =>
    simp only [call, createClient] at refused ⊢
    split at refused
    · rfl
    · cases refused
  | addVersion client parent version segment =>
    simp only [call, addVersion] at refused ⊢
    split at refused
    · rfl
    · split at refused
      · cases refused
      · next behind => rw [if_neg behind]
  | addSnapshot client version data prune =>
    simp only [call, addSnapshot] at refused ⊢
    split at refused
    · rfl
    · split at refused
      · cases refused
      · next stale => rw [if_neg stale]

end Memory

/-! ## In the database -/

namespace Database

def row? (db : Database) (client : String) : Option ClientRow :=
  db.clients.find? (·.record.id = client)

end Database

namespace Embedded

variable (db : Database) (time : Number)

/-- All that a call can do to the database while nothing fails. -/
theorem moves (c : Call) :
    Moves timeColumn time c (call time c [] db).1 db.row? (call time c [] db).2.row? ∧
      (c.granted (call time c [] db).1 = false → (call time c [] db).2 = db) := by
  have stays {c : Call} {reply : Except Failure c.Reply} (hcall : call time c [] db = (reply, db))
      (goes : Goes timeColumn time (db.row? c.client) c reply (db.row? c.client)) :
      Moves timeColumn time c (call time c [] db).1 db.row? (call time c [] db).2.row? ∧
        (c.granted (call time c [] db).1 = false → (call time c [] db).2 = db) := by
    rw [hcall]
    exact ⟨.stays goes, fun _ => rfl⟩
  have changes {c : Call} {reply : Except Failure c.Reply} {change : ClientRow → ClientRow}
      {versions : List VersionRow}
      (hcall : call time c [] db = (reply, ⟨changeRow c.client change db.clients, versions⟩))
      (hid : ∀ row, (change row).record.id = row.record.id) (granted : c.granted reply = true)
      (goes : Goes timeColumn time (db.row? c.client) c reply ((db.row? c.client).map change)) :
      Moves timeColumn time c (call time c [] db).1 db.row? (call time c [] db).2.row? ∧
        (c.granted (call time c [] db).1 = false → (call time c [] db).2 = db) := by
    rw [hcall]
    refine ⟨⟨?_, ?_⟩, ?_⟩
    · simp only [Database.row?, find?_changeRow db.clients c.client hid, if_true]
      exact goes
    · intro other ho
      simp only [Database.row?, find?_changeRow db.clients c.client hid, if_neg ho]
    · intro refused
      rw [granted] at refused
      cases refused
  cases c with
  | getClient client => exact stays (call_getClient time client) (.getClient client)
  | getVersionByParent client parent =>
    exact stays (call_getVersionByParent time client parent) (.getVersionByParent ..)
  | getSnapshot client => exact stays (call_getSnapshot time client) (.getSnapshot client)
  | createClient client =>
    cases hrow : db.row? client with
    | none =>
      rw [call_createClient_ok time client hrow]
      refine ⟨⟨?_, ?_⟩, fun refused => nomatch refused⟩
      · have own : (⟨db.clients ++ [⟨.fresh client, none⟩], db.versions⟩ : Database).row? client =
            some ⟨.fresh client, none⟩ := by
          unfold Database.row? at hrow ⊢
          rw [List.find?_append, hrow]
          simp [Client.fresh]
        rw [Call.client, own]
        exact .created client hrow
      · intro other ho
        have hne : ¬ client = other := fun h => ho h.symm
        simp [Database.row?, List.find?_append, Client.fresh, hne]
    | some row => exact stays (call_createClient_exists time hrow) (.exists client)
  | addVersion client parent version segment =>
    cases hrow : db.row? client with
    | none => exact stays (call_addVersion_unknown time client hrow ..) (.notAdded ..)
    | some row =>
      by_cases head : row.record.head = parent
      · cases hkey : repeatedKey? db.versions ⟨client, version, parent, segment⟩ with
        | none =>
          refine changes (call_addVersion_committed time hrow head hkey) (fun _ => rfl) rfl ?_
          subst head
          rw [Call.client, hrow]
          exact .committed client version segment rfl
        | some columns =>
          exact stays (call_addVersion_refused time hrow head hkey) (.notAdded ..)
      · refine stays (call_addVersion_conflict time hrow head version segment) ?_
        exact .conflict client version segment hrow head
  | addSnapshot client version data prune =>
    cases hrow : db.row? client with
    | none =>
      exact stays (call_addSnapshot_unknown time client hrow ..) (.notTaken client version data prune hrow)
    | some row =>
      by_cases head : row.record.head = version
      · refine changes (call_addSnapshot_accepted time hrow head data prune) (fun _ => rfl) rfl ?_
        subst head
        rw [Call.client, hrow]
        exact .accepted client data prune rfl
      · refine stays (call_addSnapshot_mismatch time hrow head data prune) ?_
        exact .mismatch client data prune hrow head

end Embedded

end TaskSync.Store
