import TaskSync.Proofs.Moves
import TaskSync.Proofs.Writes

/-!
# The bookkeeping of snapshots

What a store says about a client's snapshot is all of one call: the last
snapshot that was accepted. The count of the versions since then goes up with
every version committed. No id needs to be new for this.
-/

namespace TaskSync.Store

namespace Ledger

variable {l : Ledger}

/-! ## One call -/

/-- The snapshot is of one of the client's versions, and nothing was noted before the client was
created. -/
structure Tallied (l : Ledger) : Prop where
  taken : ∀ t ∈ l.taken, l.ids[t.count]? = some t.version
  uncreated : l.created = false → l = {}

theorem row?_eq_some {stamp : Number → Option Number} {client : String} {row : ClientRow}
    (known : l.row? stamp client = some row) :
    l.created = true ∧ row = ⟨l.record stamp client, l.taken.map (·.data)⟩ := by
  unfold row? at known
  split at known
  · next created => exact ⟨created, (Option.some.inj known).symm⟩
  · cases known

theorem row?_eq_none {stamp : Number → Option Number} {client : String}
    (unknown : l.row? stamp client = none) : l.created = false := by
  unfold row? at unknown
  split at unknown
  · cases unknown
  · next created => exact Bool.eq_false_iff.mpr created

namespace Tallied

theorem empty : Tallied {} where
  taken := by simp
  uncreated := fun _ => rfl

theorem count_le (tallied : l.Tallied) : ∀ t ∈ l.taken, t.count ≤ l.versions.length := by
  intro t ht
  have hlt := (List.getElem?_eq_some_iff.mp (tallied.taken t ht)).1
  rw [length_ids] at hlt
  exact Nat.le_of_lt_succ hlt

theorem append (tallied : l.Tallied) (created : l.created = true) (v : Version) :
    (l.append v).Tallied where
  taken := by
    intro t ht
    have hid := tallied.taken t ht
    rw [ids_append, List.getElem?_append_left (List.getElem?_eq_some_iff.mp hid).1]
    exact hid
  uncreated := by simp [Ledger.append, created]

theorem take (created : l.created = true) (data : Bytes) (time : Number) (prune : Bool) :
    (l.take l.head data time prune).Tallied where
  taken := by
    intro t ht
    obtain rfl := Option.some.inj ht
    exact l.ids_length
  uncreated := by simp [Ledger.take, created]

theorem goes (tallied : l.Tallied) {stamp : Number → Option Number} {time : Number} {c : Call}
    {reply : Except Failure c.Reply} {after : Option ClientRow}
    (goes : Goes stamp time (l.row? stamp c.client) c reply after) :
    after = (l.note ⟨time, c, reply⟩).row? stamp c.client ∧ (l.note ⟨time, c, reply⟩).Tallied := by
  cases goes with
  | getClient client => exact ⟨rfl, tallied⟩
  | getVersionByParent client parent version => exact ⟨rfl, tallied⟩
  | getSnapshot client => exact ⟨rfl, tallied⟩
  | «exists» client => exact ⟨rfl, tallied⟩
  | conflict client version segment known behind => exact ⟨rfl, tallied⟩
  | notAdded client parent version segment failure => exact ⟨rfl, tallied⟩
  | mismatch client data prune known stale => exact ⟨rfl, tallied⟩
  | notTaken client version data prune unknown => exact ⟨rfl, tallied⟩
  | created client unknown =>
    obtain rfl := tallied.uncreated (row?_eq_none unknown)
    exact ⟨rfl, by simp [Ledger.note], by simp [Ledger.note]⟩
  | committed client version segment known =>
    obtain ⟨created, rfl⟩ := @row?_eq_some l stamp client _ known
    refine ⟨?_, tallied.append created _⟩
    simp only [Ledger.note, Ledger.row?, record_append tallied.count_le]
    simp [Ledger.append, created, Call.client]
  | accepted client data prune known =>
    obtain ⟨created, rfl⟩ := @row?_eq_some l stamp client _ known
    refine ⟨?_, take created data time prune⟩
    simp only [Ledger.note, Ledger.row?, record_take]
    simp [Ledger.take, created, Call.client]

end Tallied

end Ledger

/-! ## The last snapshot -/

theorem ledger_taken_append {client : String} {later : History}
    (none : ∀ e ∈ later, e.snapshot? client = none) (h : History) :
    (ledger client (h ++ later)).taken = (ledger client h).taken := by
  induction later using List.reverseRecOn with
  | nil => rw [List.append_nil]
  | append_singleton later e ih =>
    rw [← List.append_assoc, ledger_taken_snoc, none e (by simp), Option.map_none, Option.none_or]
    exact ih fun e' he' => none e' (List.mem_append_left _ he')

theorem ledger_taken_mono {client : String} {earlier h : History} {t : Taken}
    (hp : earlier <+: h) (ht : (ledger client earlier).taken = some t)
    (tallied : (ledger client earlier).Tallied) :
    ∃ t', (ledger client h).taken = some t' ∧ t.count ≤ t'.count := by
  obtain ⟨rest, rfl⟩ := hp
  induction rest using List.reverseRecOn with
  | nil => exact ⟨t, by rwa [List.append_nil], Nat.le_refl _⟩
  | append_singleton rest e ih =>
    rw [← List.append_assoc, ledger_taken_snoc]
    cases e.snapshot? client with
    | none => exact ih
    | some s =>
      refine ⟨_, rfl, ?_⟩
      simp only [← ledger_commits]
      exact Nat.le_trans (tallied.count_le t ht)
        (ledger_versions_grow client (List.prefix_append ..)).length_le

end TaskSync.Store

namespace TaskSync.Scenario

open Store

/-! ## Stores in which nothing fails -/

namespace Backing

/-- What is kept for a client besides its versions. -/
def row? (client : String) : Backing → Option ClientRow
  | memory state => state.row? client
  | embedded host => host.database.row? client
  | unreachable _ => none

def stamp : Backing → Number → Option Number
  | embedded _ => Embedded.timeColumn
  | memory _ | unreachable _ => some

def Calm : Backing → Prop
  | memory _ => True
  | embedded host => host.faults = [] ∧ host.closed = []
  | unreachable _ => False

theorem stamp_of_clock (b : Backing) {time : Number} (clock : time.isNaN = false) :
    b.stamp time = some time := by
  cases b <;> simp [stamp, Embedded.timeColumn, clock]

/-- All that a call can do to a store. -/
structure Answers (b : Backing) (time : Number) (c : Call) : Prop where
  moves : Moves b.stamp time c (b.call 0 time c).1 (b.row? ·) ((b.call 0 time c).2.row? ·)
  calm : (b.call 0 time c).2.Calm
  stamp : (b.call 0 time c).2.stamp = b.stamp
  /-- A call that was not granted leaves the whole store as it was. -/
  unchanged : c.granted (b.call 0 time c).1 = false → (b.call 0 time c).2 = b

theorem Calm.answers {b : Backing} (calm : b.Calm) (time : Number) (c : Call) :
    b.Answers time c := by
  cases b with
  | memory state =>
    exact ⟨state.moves time c, trivial, rfl,
      fun refused => congrArg memory (state.call_of_not_granted time refused)⟩
  | embedded host =>
    obtain ⟨database, faults, closed, onFile⟩ := host
    obtain ⟨rfl, rfl⟩ := calm
    obtain ⟨moves, unchanged⟩ := Embedded.moves database time c
    exact ⟨moves, ⟨rfl, rfl⟩, rfl,
      fun refused => congrArg (fun db => embedded ⟨db, [], [], onFile⟩) (unchanged refused)⟩
  | unreachable failure => exact calm.elim

theorem IsNew.calm {b : Backing} (new : b.IsNew) : b.Calm := by
  cases new
  · trivial
  · exact ⟨rfl, rfl⟩

theorem IsNew.row? {b : Backing} (new : b.IsNew) (client : String) : b.row? client = none := by
  cases new <;> rfl

end Backing

/-! ## Runs -/

namespace Recorded

/-- Nothing fails, and for every client there is what its ledger says. -/
structure Tracks (r : Recorded) : Prop where
  calm : r.store.Calm
  rows : ∀ client, r.store.row? client = (ledger client r.history).row? r.store.stamp client
  tallied : ∀ client, (ledger client r.history).Tallied

theorem Tracks.call {r : Recorded} (tracks : r.Tracks) (time : Number) (c : Call) :
    (r.call time c).Tracks := by
  obtain ⟨⟨goes, others⟩, calm, stamp, -⟩ := tracks.calm.answers time c
  rw [tracks.rows] at goes
  obtain ⟨row, tallied⟩ := (tracks.tallied c.client).goes goes
  refine ⟨calm, fun client => ?_, fun client => ?_⟩
  · simp only [Recorded.call, stamp, ledger_snoc]
    by_cases hc : c.client = client
    · subst hc
      rw [if_pos rfl, row]
    · rw [if_neg hc, others client (Ne.symm hc), tracks.rows]
  · simp only [Recorded.call, ledger_snoc]
    by_cases hc : c.client = client
    · subst hc
      rwa [if_pos rfl]
    · rw [if_neg hc]
      exact tracks.tallied client

theorem tracks {start : Backing} (new : start.IsNew) (calls : List (Number × Call)) :
    (run start calls).Tracks := by
  induction calls using List.reverseRecOn with
  | nil => exact ⟨new.calm, fun client => new.row? client, fun _ => .empty⟩
  | append_singleton calls made ih =>
    rw [run_snoc]
    exact ih.call made.1 made.2

theorem history_calls (start : Backing) (calls : List (Number × Call)) :
    (run start calls).history.map (fun e => (e.time, e.call)) = calls := by
  induction calls using List.reverseRecOn with
  | nil => rfl
  | append_singleton calls made ih =>
    rw [run_snoc]
    simp [Recorded.call, ih]

theorem history_take (start : Backing) (calls : List (Number × Call)) (n : Nat) :
    (run start (calls.take n)).history = (run start calls).history.take n := by
  have length (calls : List (Number × Call)) : (run start calls).history.length = calls.length := by
    rw [← List.length_map, history_calls]
  have hp := history_grows start (List.take_prefix n calls)
  rw [List.prefix_iff_eq_take.mp hp, length, List.length_take, ← length calls, ← List.take_take,
    List.take_length]

theorem answered {start : Backing} {calls : List (Number × Call)} {earlier later : History}
    {e : Answered} (split : (run start calls).history = earlier ++ e :: later) :
    (run start (calls.take earlier.length)).history = earlier ∧
      ((run start (calls.take earlier.length)).store.call 0 e.time e.call).1 = e.reply := by
  have hbefore : (run start (calls.take earlier.length)).history = earlier := by
    rw [history_take, split, List.take_left]
  have hlast : (earlier ++ e :: later).take (earlier.length + 1) = earlier ++ [e] := by
    rw [List.take_length_add_append]
    rfl
  have hcalls : calls.take (earlier.length + 1) =
      calls.take earlier.length ++ [(e.time, e.call)] := by
    have hmade := history_calls start calls
    rw [split] at hmade
    rw [← hmade, ← List.map_take, ← List.map_take, hlast, List.take_left, List.map_append]
    rfl
  have hafter := history_take start calls (earlier.length + 1)
  rw [hcalls, run_snoc, split, hlast, Recorded.call] at hafter
  simp only [hbefore, List.append_cancel_left_eq, List.cons.injEq, and_true] at hafter
  exact ⟨hbefore, eq_of_heq (Answered.mk.inj hafter).2.2⟩

end Recorded

/-! ## What is told of a snapshot -/

namespace Backing

/-- What a store tells of a client's snapshot: which it is, when it was taken, and how many
versions came since then. -/
structure Tells (b : Backing) (client : String) (kept : Option Snapshot) (taken : Option Number)
    (since : Nat) : Prop where
  snapshot : ∀ time, (b.call 0 time (.getSnapshot client)).1 = .ok kept
  record : ∃ found : Option Client, (∀ time, (b.call 0 time (.getClient client)).1 = .ok found) ∧
    (found = none → kept = none ∧ since = 0) ∧
    ∀ record, found = some record → record.snapshotVersion = kept.map (·.version) ∧
      record.snapshotTime = taken ∧ record.sinceSnapshot = since

/-- The head of a client's chain is told to be a version. -/
def TellsHead (b : Backing) (client version : String) : Prop :=
  ∃ record : Client, record.head = version ∧
    ∀ time, (b.call 0 time (.getClient client)).1 = .ok (some record)

theorem Calm.getClient {b : Backing} (calm : b.Calm) (client : String) (time : Number) :
    (b.call 0 time (.getClient client)).1 = .ok ((b.row? client).map (·.record)) :=
  (calm.answers time (.getClient client)).moves.goes.getClient_reply

theorem Calm.known {b : Backing} (calm : b.Calm) {client : String} {time : Number} {record : Client}
    (told : (b.call 0 time (.getClient client)).1 = .ok (some record)) :
    ∃ row, b.row? client = some row ∧ row.record = record := by
  rw [calm.getClient] at told
  exact Option.map_eq_some_iff.mp (Except.ok.inj told)

theorem Calm.getSnapshot {b : Backing} (calm : b.Calm) (client : String) (time : Number) :
    (b.call 0 time (.getSnapshot client)).1 = .ok ((b.row? client).bind Embedded.snapshot?) :=
  (calm.answers time (.getSnapshot client)).moves.goes.getSnapshot_reply

end Backing

namespace Recorded

variable {r : Recorded}

theorem Tracks.tells (tracks : r.Tracks) (client : String) {taken : Option Taken}
    (htaken : (ledger client r.history).taken = taken) :
    r.store.Tells client (taken.map fun t => ⟨t.version, t.data⟩)
      (taken.bind fun t => r.store.stamp t.time)
      (r.history.countP (·.commits client) - (taken.map (·.count)).getD 0) := by
  subst htaken
  rw [← ledger_commits]
  have row := tracks.rows client
  cases created : (ledger client r.history).created with
  | false =>
    have empty := (tracks.tallied client).uncreated created
    rw [empty] at row ⊢
    refine ⟨fun time => ?_, none, fun time => ?_, fun _ => ⟨rfl, rfl⟩, by simp⟩
    · rw [tracks.calm.getSnapshot, row]
      rfl
    · rw [tracks.calm.getClient, row]
      rfl
  | true =>
    rw [Ledger.row?, if_pos created] at row
    refine ⟨fun time => ?_, some ((ledger client r.history).record r.store.stamp client),
      fun time => ?_, by simp, ?_⟩
    · rw [tracks.calm.getSnapshot, row]
      cases htaken : (ledger client r.history).taken <;>
        simp [Embedded.snapshot?, Ledger.record, htaken]
    · rw [tracks.calm.getClient, row, Option.map_some]
    · intro record hrecord
      obtain rfl := Option.some.inj hrecord
      refine ⟨?_, rfl, rfl⟩
      simp [Ledger.record, Function.comp_def]

/-- The snapshot of a client is told to be of the client's version of that number, where the nil id
comes before the first version. -/
def SnapshotAt (r : Recorded) (client : String) (snapshot : Snapshot) (i : Nat) : Prop :=
  ∃ taken since, r.store.Tells client (some snapshot) taken since ∧
    i + since = r.history.countP (·.commits client) ∧
    (ledger client r.history).ids[i]? = some snapshot.version

theorem Tracks.snapshotAt (tracks : r.Tracks) {client : String} {t : Taken}
    (ht : (ledger client r.history).taken = some t) :
    r.SnapshotAt client ⟨t.version, t.data⟩ t.count := by
  refine ⟨_, _, tracks.tells client ht, ?_, (tracks.tallied client).taken t ht⟩
  have hle := (tracks.tallied client).count_le t ht
  rw [ledger_commits] at hle
  simp only [Option.map_some, Option.getD_some]
  omega

end Recorded

/-! ## The bookkeeping -/

/-- What is told of a client's snapshot after some calls is right, and stays so. -/
structure Bookkept (start : Backing) (calls : List (Number × Call)) (client : String) : Prop where
  /-- Until a snapshot is accepted there is none, and all versions count. -/
  untaken : (∀ e ∈ (Recorded.run start calls).history, e.snapshot? client = none) →
    (Recorded.run start calls).store.Tells client none none
      ((Recorded.run start calls).history.countP (·.commits client))
  /-- Then all that is told is of the last one accepted. Its version was the head at that call. -/
  taken : ∀ earlier e later snapshot, (Recorded.run start calls).history = earlier ++ e :: later →
    e.snapshot? client = some snapshot → (∀ e' ∈ later, e'.snapshot? client = none) →
      (Recorded.run start calls).store.Tells client (some snapshot) (some e.time)
          (later.countP (·.commits client)) ∧
        (Recorded.run start (calls.take earlier.length)).store.TellsHead client snapshot.version
  /-- A conflict leaves the whole store as it was. -/
  conflict : ∀ time parent version segment head,
    ((Recorded.run start calls).store.call 0 time
      (.addVersion client parent version segment)).1 = .ok (.conflict head) →
    ((Recorded.run start calls).store.call 0 time
      (.addVersion client parent version segment)).2 = (Recorded.run start calls).store
  /-- So does a snapshot of another version than the head. -/
  stale : ∀ head version, (Recorded.run start calls).store.TellsHead client head →
    head ≠ version → ∀ time data prune, (Recorded.run start calls).store.call 0 time
      (.addSnapshot client version data prune) =
        (.ok (.mismatch head), (Recorded.run start calls).store)
  /-- And a snapshot for a client that is not there. -/
  unknown : (∀ head, ¬ (Recorded.run start calls).store.TellsHead client head) →
    ∀ time version data prune, (Recorded.run start calls).store.call 0 time
      (.addSnapshot client version data prune) =
        (.error (.noSuchClient client), (Recorded.run start calls).store)
  /-- A snapshot once there stays, or a later one of no earlier version takes its place. -/
  never_back : ∀ prior, prior <+: calls → ∀ snapshot,
    (∀ time, ((Recorded.run start prior).store.call 0 time (.getSnapshot client)).1 =
      .ok (some snapshot)) →
    ∃ i j snapshot', (Recorded.run start prior).SnapshotAt client snapshot i ∧
      (Recorded.run start calls).SnapshotAt client snapshot' j ∧ i ≤ j

/-- **Snapshot bookkeeping.** After any calls on a new store, whatever ids they use, what is told of
every client's snapshot is of the last call that was accepted, with the versions since counted. No
call that was not granted changes the store. -/
theorem snapshot_bookkeeping {start : Backing} (new : start.IsNew) {calls : List (Number × Call)}
    (clock : ∀ made ∈ calls, made.1.isNaN = false) (client : String) :
    Bookkept start calls client := by
  have tracks := Recorded.tracks new calls
  constructor
  case untaken =>
    intro none
    have htaken := ledger_taken_append none []
    exact tracks.tells client htaken
  case taken =>
    intro earlier e later snapshot split accepted last
    obtain ⟨before, reply⟩ := Recorded.answered split
    obtain ⟨prune, record, he⟩ := Answered.snapshot?_eq_some accepted
    constructor
    · have htaken : (ledger client (Recorded.run start calls).history).taken =
          some ⟨snapshot.version, snapshot.data, e.time, earlier.countP (·.commits client)⟩ := by
        have hone : earlier ++ e :: later = (earlier ++ [e]) ++ later := by simp
        rw [split, hone, ledger_taken_append last, ledger_taken_snoc, accepted]
        rfl
      have htime : (Recorded.run start calls).store.stamp e.time = some e.time := by
        refine Backing.stamp_of_clock _ (clock (e.time, e.call) ?_)
        rw [← Recorded.history_calls start calls, split]
        simp
      have tells := tracks.tells client htaken
      have hcount : (Recorded.run start calls).history.countP (·.commits client) -
          earlier.countP (·.commits client) = later.countP (·.commits client) := by
        have he' : e.commits client = false := by rw [he]; rfl
        rw [split, List.countP_append, List.countP_cons, he']
        simp
      simpa [htime, hcount] using tells
    · have calm := (Recorded.tracks new (calls.take earlier.length)).calm
      rw [he] at reply
      have goes := (calm.answers e.time
        (.addSnapshot client snapshot.version snapshot.data prune)).moves.goes
      rw [reply] at goes
      obtain ⟨row, known, head⟩ := goes.accepted_known
      refine ⟨row.record, head, fun time => ?_⟩
      rw [calm.getClient]
      exact congrArg (fun row => Except.ok (Option.map (·.record) row)) known
  case conflict =>
    intro time parent version segment head hconflict
    refine (tracks.calm.answers time _).unchanged ?_
    rw [hconflict]
    rfl
  case stale =>
    rintro head version ⟨record, rfl, told⟩ stale time data prune
    obtain ⟨row, known, rfl⟩ := tracks.calm.known (told time)
    have answers := tracks.calm.answers time (.addSnapshot client version data prune)
    have reply := answers.moves.goes.stale_reply known stale
    exact Prod.ext reply (answers.unchanged (by rw [reply]; rfl))
  case unknown =>
    intro unknown time version data prune
    have answers := tracks.calm.answers time (.addSnapshot client version data prune)
    have none : (Recorded.run start calls).store.row? client = none := by
      by_contra known
      obtain ⟨row, known⟩ := Option.ne_none_iff_exists'.mp known
      refine unknown row.record.head ⟨row.record, rfl, fun time => ?_⟩
      rw [tracks.calm.getClient, known, Option.map_some]
    have reply := answers.moves.goes.unknown_reply none
    exact Prod.ext reply (answers.unchanged (by rw [reply]; rfl))
  case never_back =>
    intro prior hprior snapshot told
    have before := Recorded.tracks new prior
    have found := ((before.tells client rfl).snapshot 0).symm.trans (told 0)
    obtain ⟨t, ht, rfl⟩ := Option.map_eq_some_iff.mp (Except.ok.inj found)
    obtain ⟨t', ht', hle⟩ :=
      ledger_taken_mono (Recorded.history_grows start hprior) ht (before.tallied client)
    exact ⟨t.count, t'.count, _, before.snapshotAt ht, tracks.snapshotAt ht', hle⟩

/-- A snapshot of no version, one that comes too late, one that prunes, and ids used again. -/
def snapshotRun : List (Number × Call) :=
  [(1, .createClient "c"), (2, .addSnapshot "c" nilId [1] false), (3, .addVersion "c" nilId "v1" []),
    (4, .addVersion "c" "v1" "v2" [2]), (5, .addSnapshot "c" "v1" [3] true),
    (6, .addSnapshot "c" "v2" [4] true), (7, .addVersion "c" nilId "v3" []),
    (8, .addVersion "c" "v2" "v1" [5]), (9, .addVersion "c" "v1" nilId [])]

theorem snapshot_bookkeeping_reused :
    (Backing.embedded {}).IsNew ∧ (∀ made ∈ snapshotRun, made.1.isNaN = false) ∧
      Bookkept (.embedded {}) snapshotRun "c" := by
  have new : (Backing.embedded {}).IsNew := .embedded false
  have clock : ∀ made ∈ snapshotRun, made.1.isNaN = false := by decide
  exact ⟨new, clock, snapshot_bookkeeping new clock "c"⟩

end TaskSync.Scenario
