import TaskSync.Proofs.Interleaving
import TaskSync.Proofs.Uninterrupted

/-!
# Recovery

A replica that starts from the snapshot gets every version after it, and one
that starts from nothing gets every version, as long as there is no snapshot.
Whoever is told that a version is gone can have a snapshot.
-/

namespace TaskSync.Scenario

open Store

/-- Asking the engine for what follows a version, then for what follows that, and so on, finds a
list of versions until there is nothing newer. -/
inductive Pull (engine : Engine) (client : String) : World → String → List Version → Prop where
  | upToDate {world after : World} {parent : String}
      (answer : (World.perform (engine.getChildVersion client parent)).run world =
        (.ok .upToDate, after)) :
      Pull engine client world parent []
  | found {world after : World} {parent : String} {version : Version} {rest : List Version}
      (answer : (World.perform (engine.getChildVersion client parent)).run world =
        (.ok (.found version), after))
      (pull : Pull engine client after version.id rest) :
      Pull engine client world parent (version :: rest)

/-- A replica of a client can always catch up with the versions committed for it. -/
structure Recoverable (engine : Engine) (client : String) (versions : List Version)
    (world : World) : Prop where
  /-- From the snapshot on, a replica finds every later version, as many as the record counts. -/
  from_snapshot : ∀ snapshot after,
    (World.perform (engine.getSnapshot client)).run world = (.ok (some snapshot), after) →
      ∃ i version record, versions[i]? = some version ∧ version.id = snapshot.version ∧
        (∀ time, (world.backing.call 0 time (.getClient client)).1 = .ok (some record)) ∧
        (versions.drop (i + 1)).length = record.sinceSnapshot ∧
        Pull engine client after snapshot.version (versions.drop (i + 1))
  /-- Without a snapshot it finds every version from the nil id on. -/
  from_nil : ∀ after,
    (World.perform (engine.getSnapshot client)).run world = (.ok none, after) →
      Pull engine client after nilId versions
  /-- Of the ids that replicas have, one is gone only if there is a snapshot. -/
  gone : ∀ parent, (parent = nilId ∨ ∃ version ∈ versions, version.id = parent) →
    ((World.perform (engine.getChildVersion client parent)).run world).1 = .ok .gone →
      ∃ snapshot, ((World.perform (engine.getSnapshot client)).run world).1 = .ok (some snapshot)

variable {stamp : Number → Option Number} {h : History} {client : String}

theorem World.Keeps.pull {world : World} (keeps : world.Keeps stamp h) (engine : Engine)
    (known : (ledger client h).created = true ∨ engine.createClients = true) {i : Nat}
    {id : String} (hi : (ledger client h).ids[i]? = some id)
    (hk : (ledger client h).pruned ≤ i + 1) :
    Pull engine client world id ((ledger client h).versions.drop i) := by
  induction hv : (ledger client h).versions.drop i generalizing world h i id with
  | nil =>
    have hnone := List.getElem?_eq_none (List.drop_eq_nil_iff.mp hv)
    obtain ⟨after, h', answer, -, -⟩ := keeps.childAnswer engine known id
    rw [Ledger.childAnswer_at (keeps.store.sound client) hi hk, hnone] at answer
    exact .upToDate answer
  | cons v rest ih =>
    have hget : (ledger client h).versions[i]? = some v := by
      rw [← List.head?_drop, hv, List.head?_cons]
    obtain ⟨after, h', answer, kept, quiet⟩ := keeps.childAnswer engine known id
    rw [Ledger.childAnswer_at (keeps.store.sound client) hi hk, hget] at answer
    have same := quiet.versions client
    refine .found answer (ih kept ?_ (i := i + 1) ?_ ?_ ?_)
    · exact known.imp_left (ledger_created_mono quiet.isPrefix)
    · have hid := (ledger client h).ids_succ i
      rw [hget] at hid
      rwa [Ledger.ids, same]
    · rw [(quiet.snapshots client).1]
      exact Nat.le_succ_of_le hk
    · rw [same, ← List.drop_drop, hv, List.drop_one, List.tail_cons]

-- What is found later is what was there, if nothing was written in between.
theorem World.Keeps.pullLater {world : World} {h' : History} (keeps : world.Keeps stamp h')
    (quiet : Quiet h h') (engine : Engine)
    (known : (ledger client h).created = true ∨ engine.createClients = true) {i : Nat} {id : String}
    (hi : (ledger client h).ids[i]? = some id) (hk : (ledger client h).pruned ≤ i + 1) :
    Pull engine client world id ((ledger client h).versions.drop i) := by
  have pulled : (ledger client h').ids[i]? = some id → _ :=
    keeps.pull engine (known.imp_left (ledger_created_mono quiet.isPrefix))
  rw [Ledger.ids, quiet.versions client, (quiet.snapshots client).1] at pulled
  exact pulled hi hk

theorem Underway.Holds.taken_ne_nil {orders : List Order} {u : Underway}
    (holds : u.Holds stamp orders) {taken : Taken}
    (ht : taken ∈ (ledger client u.transcript.history).taken) : taken.version ≠ nilId := by
  obtain ⟨e, he, other, data, prune, hcall⟩ := ledger_taken ht
  obtain ⟨⟨i, deed⟩, hmem, hline⟩ := List.mem_filterMap.mp he
  cases deed with
  | drew id => cases hline
  | called e' =>
    obtain rfl := Option.some.inj hline
    obtain ⟨order, earlier, -, -, rule⟩ := holds.rule hmem
    rw [hcall] at rule
    exact rule

theorem childAnswer_ne_gone {l : Ledger} (sound : l.Sound) (none : l.taken = none)
    {id : String} (hid : id ∈ l.ids) : l.childAnswer id ≠ .gone := by
  obtain ⟨i, hi⟩ := List.mem_iff_getElem?.mp hid
  have hk : l.pruned ≤ i + 1 := by
    rw [sound.untaken none]
    exact Nat.zero_le _
  rw [Ledger.childAnswer_at sound hi hk]
  cases l.versions[i]? <;> simp

theorem created_of_taken {l : Ledger} (sound : l.Sound) {t : Taken} (ht : l.taken = some t) :
    l.created = true := by
  cases created : l.created with
  | true => rfl
  | false =>
    rw [sound.uncreated created] at ht
    cases ht

/-- What a ledger says about its snapshot is enough to catch up. -/
theorem World.Keeps.recoverable {world : World} (keeps : world.Keeps stamp h)
    (snapshots : ∀ taken ∈ (ledger client h).taken, taken.version ≠ nilId) (engine : Engine) :
    Recoverable engine client (ledger client h).versions world := by
  have sound := keeps.store.sound client
  have reads {snapshot : Option Snapshot} {after : World}
      (found : (World.perform (engine.getSnapshot client)).run world = (.ok snapshot, after)) :
      ∃ h', after.Keeps stamp h' ∧ Quiet h h' ∧
        ((ledger client h).created = true ∨ engine.createClients = true) ∧
        snapshot = (ledger client h).taken.map fun taken => ⟨taken.version, taken.data⟩ := by
    obtain ⟨h', ended, kept⟩ := keeps.getSnapshot engine client
    rw [found] at ended kept
    exact ⟨h', kept, ended⟩
  constructor
  case from_snapshot =>
    intro snapshot after found
    obtain ⟨h', kept, quiet, -, hsnapshot⟩ := reads found
    obtain ⟨taken, ht, rfl⟩ := Option.map_eq_some_iff.mp hsnapshot.symm
    have created := created_of_taken sound ht
    obtain ⟨hk, hid⟩ := sound.taken taken ht
    -- The snapshot is not of the nil id, so that it is of a version.
    obtain ⟨i, hi⟩ : ∃ i, taken.count = i + 1 := by
      refine Nat.exists_eq_succ_of_ne_zero fun hzero => ?_
      rw [hzero] at hid
      exact snapshots taken ht (Option.some.inj hid).symm
    rw [hi] at hid hk
    obtain ⟨version, hversion, hvid⟩ :=
      Option.map_eq_some_iff.mp (((ledger client h).ids_succ i).symm.trans hid)
    refine ⟨i, version, _, hversion, hvid, keeps.store.client_reply created 0, ?_,
      kept.pullLater quiet engine (.inl created) hid (Nat.le_succ_of_le hk)⟩
    rw [List.length_drop]
    simp only [Ledger.record, ht, Option.map_some, Option.getD_some, hi]
  case from_nil =>
    intro after answered
    obtain ⟨h', kept, quiet, known, hsnapshot⟩ := reads answered
    have none := Option.map_eq_none_iff.mp hsnapshot.symm
    have hk : (ledger client h).pruned ≤ 0 + 1 := by
      rw [sound.untaken none]
      exact Nat.zero_le _
    exact kept.pullLater quiet engine known (i := 0) rfl hk
  case gone =>
    intro parent hparent gone
    have hid : parent ∈ (ledger client h).ids := by
      rcases hparent with rfl | ⟨version, hversion, rfl⟩
      · exact (ledger client h).nil_mem_ids
      · exact Ledger.id_mem_ids hversion
    cases ht : (ledger client h).taken with
    | some taken =>
      obtain ⟨h', ended, -⟩ := keeps.getSnapshot engine client
      generalize ((World.perform (engine.getSnapshot client)).run world).1 = result at ended ⊢
      cases result with
      | error failure =>
        obtain ⟨-, -, unknown, -⟩ := ended
        cases unknown.symm.trans (created_of_taken sound ht)
      | ok snapshot =>
        obtain ⟨-, -, rfl⟩ := ended
        rw [ht]
        exact ⟨_, rfl⟩
    | none =>
      obtain ⟨h', ended, -⟩ := keeps.getChildVersion engine client parent
      rw [gone] at ended
      exact absurd ended.2.symm (childAnswer_ne_gone sound ht hid)

/-- **Recovery.** In every state that requests can bring about on a new store, every replica of
every client can catch up. -/
theorem no_replica_stranded {store : Backing} (new : store.IsNew) (orders : List Order)
    {turns : List Turn} (fresh : (Underway.run store orders turns).transcript.FreshDraws)
    {world : World} (reached : world.backing = (Underway.run store orders turns).store)
    (calm : world.misbehaviours = []) (engine : Engine) (client : String) :
    Recoverable engine client
      (((Underway.run store orders turns).transcript.commits client).map (·.2)) world := by
  obtain ⟨stamp, keeps⟩ := new.keeps
  have holds := Underway.Holds.run keeps orders fresh
  have there : world.Keeps stamp (Underway.run store orders turns).transcript.history :=
    ⟨calm, reached ▸ holds.keeps⟩
  rw [Transcript.map_commits]
  exact there.recoverable (fun taken ht => holds.taken_ne_nil ht) engine

/-- Two versions, snapshots of the nil id and of the second that prunes the first, and a third. -/
def snapshotOrders : List Order :=
  [⟨{}, .addVersion "c" nilId [1]⟩, ⟨{}, .addVersion "c" "v1" [2]⟩,
    ⟨{ retention := .pruneOnSnapshot }, .addSnapshot "c" nilId [7]⟩,
    ⟨{ retention := .pruneOnSnapshot }, .addSnapshot "c" "v2" [8]⟩,
    ⟨{}, .addVersion "c" "v2" [3]⟩]

def snapshotTurns : List Turn :=
  List.replicate 7 ⟨0, 1, "v1"⟩ ++ List.replicate 5 ⟨1, 2, "v2"⟩ ++ List.replicate 2 ⟨2, 3, ""⟩ ++
    List.replicate 3 ⟨3, 4, ""⟩ ++ List.replicate 5 ⟨4, 5, "v3"⟩

def snapshotWorld : World where
  backing := (Underway.run (.embedded {}) snapshotOrders snapshotTurns).store

theorem no_replica_stranded_pruned :
    (Backing.embedded {}).IsNew ∧
      (Underway.run (.embedded {}) snapshotOrders snapshotTurns).transcript.FreshDraws ∧
      snapshotWorld.backing = (Underway.run (.embedded {}) snapshotOrders snapshotTurns).store ∧
      snapshotWorld.misbehaviours = [] ∧
      Recoverable {} "c"
        (((Underway.run (.embedded {}) snapshotOrders snapshotTurns).transcript.commits "c").map
          (·.2)) snapshotWorld := by
  have new : (Backing.embedded {}).IsNew := .embedded false
  have fresh : (Underway.run (.embedded {}) snapshotOrders snapshotTurns).transcript.FreshDraws := by
    decide +kernel
  have reached : snapshotWorld.backing =
      (Underway.run (.embedded {}) snapshotOrders snapshotTurns).store := by
    simp only [snapshotWorld]
  exact ⟨new, fresh, reached, rfl, no_replica_stranded new snapshotOrders fresh reached rfl {} "c"⟩

end TaskSync.Scenario
