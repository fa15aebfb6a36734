import TaskSync.Proofs.Bookkeeping

/-!
# What a store holds for a client

A client's row, and its versions by their parents, are all that a store holds for
it. A call that writes changes what is held for its own client, in one of three
ways: the client is enrolled, a version is appended, or a snapshot is taken.
-/

namespace TaskSync

namespace Store

structure Holding where
  row : Option ClientRow
  /-- The version behind a parent. -/
  child? : String → Option Version

namespace Holding

/-- The client's row, which is empty as long as the client is unknown. -/
def rowOf (x : Holding) (client : String) : ClientRow := x.row.getD ⟨.fresh client, none⟩

def enrol (x : Holding) (client : String) : Holding := { x with row := some ⟨.fresh client, none⟩ }

def append (x : Holding) (client : String) (version : Version) : Holding where
  row := some { x.rowOf client with record := (x.rowOf client).record.advance version.id }
  child? parent := if parent = version.parent then some version else x.child? parent

/-- With `prune`, no version stays but the one of the snapshot. -/
def take (x : Holding) (client : String) (snapshot : Snapshot) (time : Option Number)
    (prune : Bool) : Holding where
  row := some ⟨(x.rowOf client).record.snapshotTaken snapshot.version time, some snapshot.data⟩
  child? parent :=
    if prune then (x.child? parent).filter (·.id = snapshot.version) else x.child? parent

variable {x : Holding} {client : String}

theorem rowOf_known {row : ClientRow} (known : x.row = some row) : x.rowOf client = row := by
  unfold rowOf
  rw [known, Option.getD_some]

theorem rowOf_enrol (unknown : x.row = none) : (x.enrol client).rowOf client = x.rowOf client := by
  unfold rowOf enrol
  rw [unknown]
  rfl

theorem append_enrol (unknown : x.row = none) (version : Version) :
    (x.enrol client).append client version = x.append client version := by
  unfold append
  rw [rowOf_enrol unknown]
  rfl

theorem take_enrol (unknown : x.row = none) (snapshot : Snapshot) (time : Option Number)
    (prune : Bool) :
    (x.enrol client).take client snapshot time prune = x.take client snapshot time prune := by
  unfold take
  rw [rowOf_enrol unknown]
  rfl

end Holding

/-! ## By the ledger -/

namespace Ledger

variable {l : Ledger} (stamp : Number → Option Number) (client : String)

def holding (l : Ledger) : Holding := ⟨l.row? stamp client, l.child?⟩

theorem rowOf_holding (created : l.created = true) :
    (l.holding stamp client).rowOf client =
      ⟨l.record stamp client, l.taken.map (·.data)⟩ := by
  refine Holding.rowOf_known ?_
  unfold holding row?
  rw [if_pos created]

variable {stamp client}

theorem holding_create (sound : l.Sound) (unknown : l.created = false) :
    Ledger.holding stamp client { l with created := true } =
      (l.holding stamp client).enrol client := by
  rw [sound.uncreated unknown]
  rfl

theorem holding_append (sound : l.Sound) (created : l.created = true) {v : Version}
    (behind : v.parent = l.head) :
    (l.append v).holding stamp client = (l.holding stamp client).append client v := by
  have row : (l.append v).row? stamp client =
      some ⟨(l.append v).record stamp client, l.taken.map (·.data)⟩ := if_pos created
  have record := record_append sound.count_le stamp client v
  have child : (l.append v).child? =
      fun parent => if parent = v.parent then some v else l.child? parent := by
    funext parent
    unfold child?
    rw [kept_append sound, List.find?_append]
    by_cases own : parent = v.parent
    · have last := sound.child?_head
      unfold child? at last
      rw [own, behind, last]
      simp [behind]
    · have other : ¬ v.parent = parent := fun h => own h.symm
      simp [own, other]
  unfold Holding.append
  rw [rowOf_holding stamp client created]
  unfold holding
  rw [row, record, child]

theorem holding_take (sound : l.Sound) (created : l.created = true) (data : Bytes) (time : Number)
    (prune : Bool) :
    (l.take l.head data time prune).holding stamp client =
      (l.holding stamp client).take client ⟨l.head, data⟩ (stamp time) prune := by
  have row : (l.take l.head data time prune).row? stamp client =
      some ⟨(l.take l.head data time prune).record stamp client, some data⟩ := if_pos created
  have record := record_take l stamp client l.head data time prune
  have child : (l.take l.head data time prune).child? = fun parent =>
      if prune then (l.child? parent).filter (·.id = l.head) else l.child? parent := by
    funext parent
    cases prune with
    | false => rfl
    | true =>
      have taken := sound.take created data time true
      ext v
      rw [taken.child?_eq_some_iff, kept_take_prune, ← filter_head sound, List.mem_filter,
        if_pos rfl, Option.filter_eq_some_iff, sound.child?_eq_some_iff]
      exact and_right_comm
  unfold Holding.take
  rw [rowOf_holding stamp client created]
  unfold holding
  rw [row, record, child]

theorem answer_created (unknown : l.created = false) (time : Number) :
    l.answer stamp time (.createClient client) = .ok (.fresh client) := by
  simp only [answer, unknown, Bool.false_eq_true, if_false]

variable {version : String}

theorem answer_conflict (created : l.created = true) {parent : String} (behind : l.head ≠ parent)
    (time : Number) (segment : Bytes) :
    l.answer stamp time (.addVersion client parent version segment) = .ok (.conflict l.head) := by
  simp only [answer, created, if_true, behind, if_false]

theorem answer_committed (created : l.created = true) {parent : String} (head : l.head = parent)
    (time : Number) (segment : Bytes) :
    l.answer stamp time (.addVersion client parent version segment) =
      .ok (.committed ((l.append ⟨version, parent, segment⟩).record stamp client)) := by
  simp only [answer, created, if_true, head]

theorem answer_mismatch (created : l.created = true) (stale : l.head ≠ version) (time : Number)
    (data : Bytes) (prune : Bool) :
    l.answer stamp time (.addSnapshot client version data prune) = .ok (.mismatch l.head) := by
  simp only [answer, created, if_true, stale, if_false]

theorem answer_accepted (created : l.created = true) (time : Number) (data : Bytes)
    (prune : Bool) :
    l.answer stamp time (.addSnapshot client l.head data prune) =
      .ok (.accepted ((l.take l.head data time prune).record stamp client)) := by
  simp only [answer, created, if_true]

end Ledger

end Store

/-! ## In a store -/

namespace Scenario.Backing

open Store

variable (client : String)

/-- The version that is stored behind a parent. -/
def child? (parent : String) : Backing → Option Version
  | memory state => (state.get? client).bind (·.child? parent)
  | embedded host => (versionsOf client host.database.versions).find? (·.parent = parent)
  | unreachable _ => none

def holding (b : Backing) : Holding := ⟨b.row? client, (b.child? client ·)⟩

def enrol : Backing → Backing
  | memory state => memory (state.put client (.fresh client))
  | embedded host =>
    embedded { host with
      database.clients := host.database.clients ++ [⟨.fresh client, none⟩] }
  | unreachable failure => unreachable failure

namespace Keeps

variable {b : Backing} {stamp : Number → Option Number} {h : History} (keeps : b.Keeps stamp h)
include keeps

theorem calm : b.Calm := by
  have agrees := keeps.agrees
  cases b with
  | memory state => trivial
  | embedded host => exact ⟨agrees.2.1, agrees.2.2.1⟩
  | unreachable failure => exact agrees.elim

theorem stamps : b.stamp = stamp := by
  have agrees := keeps.agrees
  cases b with
  | memory state => exact agrees.1.symm
  | embedded host => exact agrees.1.symm
  | unreachable failure => exact agrees.elim

theorem holding (client : String) : b.holding client = (ledger client h).holding stamp client := by
  have agrees := keeps.agrees
  have sound := keeps.sound client
  cases b with
  | memory state =>
    obtain ⟨rfl, kept⟩ := agrees
    have held : (memory state).holding client =
        ⟨(state.get? client).map fun chain => ⟨chain.client, chain.snapshot⟩,
          fun parent => (state.get? client).bind (·.child? parent)⟩ := rfl
    rw [held]
    rcases kept.get? client with ⟨hm, hc⟩ | ⟨chain, hm, hc, kept⟩
    · rw [hm, sound.uncreated hc]
      rfl
    · simp only [hm, hc, Option.map_some, Option.bind_some, kept.client, kept.snapshot,
        kept.child? sound, Ledger.holding, Ledger.row?, if_true]
  | embedded host =>
    obtain ⟨rfl, -, -, kept⟩ := agrees
    have held : (embedded host).holding client =
        ⟨host.database.clients.find? (·.record.id = client),
          fun parent => (versionsOf client host.database.versions).find? (·.parent = parent)⟩ := rfl
    rw [held, kept.clients, kept.versions]
    rfl
  | unreachable failure => exact agrees.elim

theorem created_iff (client : String) :
    (ledger client h).created = true ↔ ∃ row, b.row? client = some row := by
  have row : b.row? client = (ledger client h).row? stamp client :=
    congrArg Holding.row (keeps.holding client)
  rw [row]
  unfold Ledger.row?
  cases (ledger client h).created <;> simp

theorem uncreated (unknown : b.row? client = none) : (ledger client h).created = false := by
  cases created : (ledger client h).created with
  | false => rfl
  | true =>
    obtain ⟨row, known⟩ := (keeps.created_iff client).mp created
    rw [unknown] at known
    cases known

theorem head {client : String} {row : ClientRow} (known : b.row? client = some row) :
    row.record.head = (ledger client h).head := by
  have created := (keeps.created_iff client).mpr ⟨row, known⟩
  have own := Ledger.rowOf_holding stamp client created
  rw [← keeps.holding client, Holding.rowOf_known known] at own
  rw [own]
  rfl

theorem child?_unknown {client : String} (unknown : b.row? client = none) (parent : String) :
    b.child? client parent = none := by
  have child : b.child? client parent = (ledger client h).child? parent :=
    congrFun (congrArg Holding.child? (keeps.holding client)) parent
  rw [child, (keeps.sound client).uncreated (keeps.uncreated client unknown)]
  rfl

/-! ### What each call does -/

variable (time : Number)

theorem call_eq {c : Call} {reply : Except Failure c.Reply} (answered : (b.call 0 time c).1 = reply)
    (refused : c.granted reply = false) : b.call 0 time c = (reply, b) := by
  subst answered
  exact Prod.ext rfl ((keeps.calm.answers time c).unchanged refused)

theorem getClient (client : String) :
    b.call 0 time (.getClient client) = (.ok ((b.row? client).map (·.record)), b) :=
  keeps.call_eq time (keeps.calm.getClient client time) rfl

theorem getVersionByParent (client parent : String) :
    b.call 0 time (.getVersionByParent client parent) = (.ok (b.child? client parent), b) := by
  obtain ⟨reply, -⟩ := keeps.call (c := .getVersionByParent client parent) trivial 0 time
  have child : b.child? client parent = (ledger client h).child? parent :=
    congrFun (congrArg Holding.child? (keeps.holding client)) parent
  rw [child]
  exact keeps.call_eq time reply rfl

theorem others {c : Call} (fresh : c.IsFresh (ledger c.client h)) {other : String}
    (another : other ≠ c.client) : (b.call 0 time c).2.holding other = b.holding other := by
  obtain ⟨-, after⟩ := keeps.call fresh 0 time
  rw [after.holding, keeps.holding, ledger_snoc, if_neg (Ne.symm another)]

theorem own {c : Call} (fresh : c.IsFresh (ledger c.client h)) {reply : Except Failure c.Reply}
    (answer : (ledger c.client h).answer stamp time c = reply) :
    ∃ after, b.call 0 time c = (reply, after) ∧
      after.holding c.client =
        ((ledger c.client h).note ⟨time, c, reply⟩).holding stamp c.client := by
  subst answer
  obtain ⟨reply, after⟩ := keeps.call fresh 0 time
  refine ⟨_, Prod.ext reply rfl, ?_⟩
  rw [after.holding]
  exact congrArg (Ledger.holding stamp c.client) (ledger_snoc_own h rfl)

theorem createClient {client : String} (unknown : b.row? client = none) :
    b.call 0 time (.createClient client) = (.ok (.fresh client), b.enrol client) := by
  have agrees := keeps.agrees
  cases b with
  | memory state =>
    have absent : state.get? client = none := Option.map_eq_none_iff.mp unknown
    simp only [Backing.call, Memory.call, Memory.createClient, absent]
    rfl
  | embedded host =>
    obtain ⟨database, faults, closed, onFile⟩ := host
    obtain ⟨-, rfl, rfl, -⟩ := agrees
    have absent : database.clients.find? (·.record.id = client) = none := unknown
    have created := Embedded.call_createClient_ok time client absent
    simp only [Backing.call, Hosted.run, created, List.contains_nil, Bool.false_eq_true, if_false]
    rfl
  | unreachable failure => exact agrees.elim

theorem enrol {client : String} (unknown : b.row? client = none) :
    (b.enrol client).Keeps stamp (h ++ [⟨0, .createClient client, .ok (.fresh client)⟩]) := by
  obtain ⟨reply, after⟩ := keeps.call (c := .createClient client) trivial 0 0
  rw [keeps.createClient 0 unknown] at reply after
  rwa [← reply] at after

theorem holding_enrol {client : String} (unknown : b.row? client = none) :
    (b.enrol client).holding client = (b.holding client).enrol client := by
  have uncreated := keeps.uncreated client unknown
  obtain ⟨after, called, own⟩ := keeps.own 0 (c := .createClient client) trivial
    (Ledger.answer_created uncreated 0)
  rw [keeps.createClient 0 unknown] at called
  obtain rfl := (Prod.mk.inj called).2
  rw [keeps.holding]
  exact own.trans (Ledger.holding_create (keeps.sound client) uncreated)

theorem holding_enrol_of_ne {client other : String} (unknown : b.row? client = none)
    (another : other ≠ client) : (b.enrol client).holding other = b.holding other := by
  have others := keeps.others (c := .createClient client) 0 trivial another
  rwa [keeps.createClient 0 unknown] at others

section

variable {client : String} {row : ClientRow} (known : b.row? client = some row)
include known

theorem addVersion_conflict {parent : String} (behind : row.record.head ≠ parent)
    {version : String} (segment : Bytes)
    (fresh : (Call.addVersion client parent version segment).IsFresh (ledger client h)) :
    b.call 0 time (.addVersion client parent version segment) =
      (.ok (.conflict row.record.head), b) := by
  have created := (keeps.created_iff client).mpr ⟨row, known⟩
  rw [keeps.head known] at behind ⊢
  obtain ⟨after, called, -⟩ := keeps.own time (c := .addVersion client parent version segment) fresh
    (Ledger.answer_conflict created behind time segment)
  exact keeps.call_eq time (congrArg Prod.fst called) rfl

theorem addVersion_committed {parent : String} (head : row.record.head = parent)
    {version : String} (segment : Bytes)
    (fresh : (Call.addVersion client parent version segment).IsFresh (ledger client h)) :
    ∃ record after, b.call 0 time (.addVersion client parent version segment) =
        (.ok (.committed record), after) ∧
      after.holding client = (b.holding client).append client ⟨version, parent, segment⟩ := by
  have created := (keeps.created_iff client).mpr ⟨row, known⟩
  rw [keeps.head known] at head
  obtain ⟨after, called, own⟩ := keeps.own time
    (c := .addVersion client parent version segment) fresh
    (Ledger.answer_committed created head time segment)
  refine ⟨_, after, called, ?_⟩
  rw [keeps.holding]
  exact own.trans (Ledger.holding_append (keeps.sound client) created head.symm)

theorem addSnapshot_mismatch {version : String} (stale : row.record.head ≠ version) (data : Bytes)
    (prune : Bool) :
    b.call 0 time (.addSnapshot client version data prune) =
      (.ok (.mismatch row.record.head), b) := by
  have created := (keeps.created_iff client).mpr ⟨row, known⟩
  rw [keeps.head known] at stale ⊢
  obtain ⟨after, called, -⟩ := keeps.own time (c := .addSnapshot client version data prune) trivial
    (Ledger.answer_mismatch created stale time data prune)
  exact keeps.call_eq time (congrArg Prod.fst called) rfl

theorem addSnapshot_accepted {version : String} (head : row.record.head = version) (data : Bytes)
    (prune : Bool) :
    ∃ record after, b.call 0 time (.addSnapshot client version data prune) =
        (.ok (.accepted record), after) ∧
      after.holding client =
        (b.holding client).take client ⟨version, data⟩ (b.stamp time) prune := by
  have created := (keeps.created_iff client).mpr ⟨row, known⟩
  rw [keeps.head known] at head
  subst head
  obtain ⟨after, called, own⟩ := keeps.own time
    (c := .addSnapshot client (ledger client h).head data prune) trivial
    (Ledger.answer_accepted created time data prune)
  refine ⟨_, after, called, ?_⟩
  rw [keeps.holding, keeps.stamps]
  exact own.trans (Ledger.holding_take (keeps.sound client) created data time prune)

end

end Keeps

end Scenario.Backing

end TaskSync
