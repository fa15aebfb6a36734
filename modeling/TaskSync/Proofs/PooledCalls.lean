import TaskSync.Proofs.PooledServer
import TaskSync.Proofs.Simulation

/-!
# The pooled database and the store in memory are one

Every call through the pool is carried out statement by statement against the
server. It is answered as the database on its own answers it, and that is as the
store in memory does while no version repeats an id.
-/

namespace TaskSync.Store

namespace Sql.Session

/-! ## Exchanges -/

/-- Carries out an exchange with the server. -/
def perform {α : Type} (x : Exchange α) (s : Session) : Except Failure α × Session :=
  (x.run.run respond).run s

variable {α β : Type} (s : Session)

theorem perform_begin :
    perform (Pooled.run .begin) s = (.ok [], { s with saved := some s.tables }) := rfl

theorem perform_commit : perform (Pooled.run .commit) s = (.ok [], { s with saved := none }) := rfl

theorem perform_bind (x : Exchange α) (f : α → Exchange β) :
    perform (x >>= f) s = match perform x s with
      | (.ok value, after) => perform (f value) after
      | (.error failure, after) => (.error failure, after) := by
  have parts : perform (x >>= f) s =
      ((ExceptT.bindCont (m := Talk) f ((x.run.run respond).run s).1).run respond).run
        ((x.run.run respond).run s).2 := by
    have run := Dialogue.run_bind respond x.run (ExceptT.bindCont (m := Talk) f)
    exact congrArg (fun m => StateT.run m s) run
  rw [parts]
  unfold perform
  rcases (x.run.run respond).run s with ⟨_ | _, _⟩ <;> rfl

variable {s} in
theorem andThen {x : Exchange α} {f : α → Exchange β} {value : α} {after : Session}
    {result : Except Failure β × Session} (first : perform x s = (.ok value, after))
    (rest : perform (f value) after = result) : perform (x >>= f) s = result := by
  rw [perform_bind, first]
  exact rest

variable {s} in
theorem sent {statement : Statement} {rows : List statement.Row} {after : Session}
    {f : List statement.Row → Exchange β} {result : Except Failure β × Session}
    (first : answer statement s = (.ok rows, after)) (rest : perform (f rows) after = result) :
    perform (Pooled.run statement >>= f) s = result :=
  andThen first rest

variable {s} in
theorem required {statement : Statement} {row : statement.Row} {after : Session} {client : String}
    {f : statement.Row → Exchange β} {result : Except Failure β × Session}
    (first : answer statement s = (.ok [row], after)) (rest : perform (f row) after = result) :
    perform (Pooled.run statement >>= fun rows => Pooled.requireRow client rows >>= f) s = result :=
  sent first (andThen rfl rest)

theorem perform_withConnection (context : String) (work : Exchange α) :
    perform (Pooled.withConnection context work) s =
      ((perform work s).1.mapError (Failure.wrap context), (perform work s).2) := by
  have run := Dialogue.run_bind respond work.run fun result => do
    Pooled.release none
    return result.mapError (Failure.wrap context)
  exact congrArg (fun m => StateT.run m s) run

theorem perform_committed (work : Exchange α) :
    perform (Pooled.committed work) s =
      match perform work { s with saved := some s.tables } with
      | (.ok value, after) => (.ok value, { after with saved := none })
      | (.error failure, after) => (.error failure, after) := by
  unfold Pooled.committed
  refine andThen (perform_begin s) ?_
  rw [perform_bind]
  rcases perform work { s with saved := some s.tables } with ⟨_ | _, after⟩
  · rfl
  · exact andThen (perform_commit after) rfl

/-- A transaction is committed, or all is as it was when it began. -/
theorem perform_transaction (context : String) (work : Exchange α) :
    perform (Pooled.transaction context work) s =
      match perform work { s with saved := some s.tables } with
      | (.ok value, after) => (.ok value, { after with saved := none })
      | (.error failure, after) => (.error (failure.wrap context), after.rollback) := by
  have ended : perform (Pooled.transaction context work) s =
      match perform (Pooled.committed work) s with
      | (.ok value, after) => (.ok value, after)
      | (.error failure, after) => (.error (failure.wrap context), after.rollback) := by
    refine (congrArg (fun m => StateT.run m s)
      (Dialogue.run_bind respond (Pooled.committed work).run _)).trans ?_
    unfold perform
    rw [StateT.run_bind]
    rcases ((Pooled.committed work).run.run respond).run s with ⟨_ | _, _⟩ <;> rfl
  rw [ended, perform_committed]
  rcases perform work { s with saved := some s.tables } with ⟨_ | _, _⟩ <;> rfl

section

variable {context : String} {work : Exchange α} {value : α} {failure : Failure}

variable {s} in
theorem withConnection {after : Session} (did : perform work s = (.ok value, after)) :
    perform (Pooled.withConnection context work) s = (.ok value, after) := by
  rw [perform_withConnection, did]
  rfl

variable {s} in
theorem withConnection_failed (own : failure.isOwn = true) {after : Session}
    (did : perform work s = (.error failure, after)) :
    perform (Pooled.withConnection context work) s = (.error failure, after) := by
  rw [perform_withConnection, did, Except.mapError, Failure.wrap_of_isOwn own]

variable {tables after : Tables}

theorem transaction (did : perform work ⟨tables, some tables⟩ = (.ok value, ⟨after, some tables⟩)) :
    perform (Pooled.transaction context work) ⟨tables, none⟩ = (.ok value, ⟨after, none⟩) := by
  rw [perform_transaction, did]

theorem transaction_failed (own : failure.isOwn = true)
    (did : perform work ⟨tables, some tables⟩ = (.error failure, ⟨after, some tables⟩)) :
    perform (Pooled.transaction context work) ⟨tables, none⟩ =
      (.error failure, ⟨tables, none⟩) := by
  rw [perform_transaction, did]
  dsimp only
  rw [Failure.wrap_of_isOwn own]
  rfl

end

end Sql.Session

def Call.ids : Call → List String
  | .getClient client | .createClient client | .getSnapshot client => [client]
  | .getVersionByParent client parent => [client, parent]
  | .addVersion client parent version _ => [client, parent, version]
  | .addSnapshot client version _ _ => [client, version]

namespace Sql

/-- Rows that the columns can hold, one for each client. -/
structure Held (db : Database) : Prop where
  storable : ∀ row ∈ db.clients, Storable row.record
  distinct : (db.clients.map (·.record.id)).Nodup

namespace Held

variable {db : Database}

theorem empty : Held .empty := by
  constructor
  · intro row hrow
    cases hrow
  · exact List.nodup_nil

theorem none_of (db : Database) {client : String}
    (unknown : db.clients.find? (·.record.id = client) = none) :
    db.clients.filter (·.record.id = client) = [] := by
  rw [List.filter_eq_nil_iff]
  exact List.find?_eq_none.mp unknown

theorem only (held : Held db) {client : String} {row : ClientRow}
    (found : db.clients.find? (·.record.id = client) = some row) :
    db.clients.filter (·.record.id = client) = [row] := by
  have first : (db.clients.filter (·.record.id = client)).head? = some row := by
    rw [List.head?_filter, found]
  obtain ⟨rest, hrows⟩ := List.head?_eq_some_iff.mp first
  have distinct := held.distinct.sublist
    ((List.filter_sublist (p := fun row : ClientRow => decide (row.record.id = client))).map
      (·.record.id))
  have own : ∀ other ∈ row :: rest, other.record.id = client := by
    intro other hother
    rw [← hrows] at hother
    exact of_decide_eq_true (List.mem_filter.mp hother).2
  rw [hrows] at distinct ⊢
  cases rest with
  | nil => rfl
  | cons other rest =>
    have same : row.record.id = other.record.id :=
      (own row (by simp)).trans (own other (by simp)).symm
    simp [same] at distinct

theorem own (held : Held db) {client : String} {row other : ClientRow}
    (found : db.clients.find? (·.record.id = client) = some row) (hother : other ∈ db.clients)
    (own : other.record.id = client) : other = row := by
  have mem : other ∈ db.clients.filter (·.record.id = client) :=
    List.mem_filter.mpr ⟨hother, decide_eq_true own⟩
  rwa [held.only found, List.mem_singleton] at mem

theorem forall_own (held : Held db) {client : String} {row : ClientRow}
    (found : db.clients.find? (·.record.id = client) = some row) {p : ClientRow → Prop}
    (h : p row) :
    ∀ other ∈ db.clients, other.record.id = client → p other := by
  intro other hother own
  rw [held.own found hother own]
  exact h

theorem record (held : Held db) {client : String} {row : ClientRow}
    (found : db.clients.find? (·.record.id = client) = some row) : Storable row.record :=
  held.storable row (List.mem_of_find?_eq_some found)

theorem create (held : Held db) {client : String}
    (unknown : db.clients.find? (·.record.id = client) = none) :
    Held { db with clients := db.clients ++ [⟨.fresh client, none⟩] } := by
  constructor
  · intro row hrow
    rcases List.mem_append.mp hrow with old | new
    · exact held.storable row old
    · rw [List.mem_singleton.mp new]
      exact ⟨Nat.two_pow_pos 31, nofun⟩
  · rw [List.map_append, List.nodup_append]
    refine ⟨held.distinct, List.nodup_singleton _, ?_⟩
    intro a ha b hb
    obtain ⟨row, hrow, rfl⟩ := List.mem_map.mp ha
    rw [List.mem_singleton.mp hb]
    intro same
    have other := List.find?_eq_none.mp unknown row hrow
    exact other (decide_eq_true same)

theorem change (held : Held db) {client : String} {row : ClientRow}
    (found : db.clients.find? (·.record.id = client) = some row)
    (change : ClientRow → ClientRow) (hid : ∀ row, (change row).record.id = row.record.id)
    (storable : Storable (change row).record) (versions : List VersionRow) :
    Held ⟨changeRow client change db.clients, versions⟩ := by
  have ids : (changeRow client change db.clients).map (·.record.id) =
      db.clients.map (·.record.id) := by
    unfold changeRow
    rw [List.map_map]
    refine List.map_congr_left fun other _ => ?_
    simp only [Function.comp_apply]
    split
    · exact hid other
    · rfl
  constructor
  · intro changed hchanged
    obtain ⟨other, hother, rfl⟩ := List.mem_map.mp hchanged
    by_cases own : other.record.id = client
    · rw [if_pos own, held.own found hother own]
      exact storable
    · rw [if_neg own]
      exact held.storable other hother
  · rw [ids]
    exact held.distinct

end Held

/-- The server and the rows that it holds answer a call alike, and hold the same then. -/
structure Alike (db : Database) (now : Number) (c : Call) : Prop where
  answered : Session.perform (Pooled.call now c) ⟨tablesOf db, none⟩ =
    ((Embedded.call now c [] db).1, ⟨tablesOf (Embedded.call now c [] db).2, none⟩)
  held : Held (Embedded.call now c [] db).2

namespace Alike

open Session

variable {db : Database} {now : Number}

theorem intro {c : Call} {reply : Except Failure c.Reply} {after : Database}
    (embedded : Embedded.call now c [] db = (reply, after))
    (pooled : perform (Pooled.call now c) ⟨tablesOf db, none⟩ = (reply, ⟨tablesOf after, none⟩))
    (held : Held after) : Alike db now c := by
  constructor
  · rw [embedded, pooled]
  · rw [embedded]
    exact held

variable (held : Held db) {client : String} (id : Uuid.read? client = some client)
include held id

theorem getClient : Alike db now (.getClient client) := by
  refine .intro (Embedded.call_getClient now client) ?_ held
  have looked := answer_selectClient db none id
  refine withConnection (sent looked ?_)
  cases found : db.clients.find? (·.record.id = client) with
  | none =>
    rw [Held.none_of db found]
    rfl
  | some row =>
    rw [held.only found]
    have back := Storable.toClient row (held.record found)
    simp only [List.map_cons, List.map_nil, List.head?_cons, Option.map_some, back]
    rfl

theorem getVersionByParent {parent : String} (id' : Uuid.read? parent = some parent) :
    Alike db now (.getVersionByParent client parent) := by
  refine .intro (Embedded.call_getVersionByParent now client parent) ?_ held
  have looked := answer_selectVersion db none id id'
  refine withConnection (sent looked ?_)
  rw [← find?_versionsOf db.versions client fun v => v.parent = parent, List.head?_map,
    List.head?_filter]
  rfl

theorem getSnapshot : Alike db now (.getSnapshot client) := by
  refine .intro (Embedded.call_getSnapshot now client) ?_ held
  have looked := answer_selectSnapshot db none id
  refine withConnection (sent looked ?_)
  rw [List.head?_map, List.head?_filter]
  cases db.clients.find? (·.record.id = client) <;> rfl

theorem createClient : Alike db now (.createClient client) := by
  have inserted := answer_insertClient db none id
  cases found : db.clients.find? (·.record.id = client) with
  | none =>
    rw [found, Option.isSome_none, if_neg Bool.false_ne_true] at inserted
    refine .intro (Embedded.call_createClient_ok now client found) ?_ (held.create found)
    exact withConnection (sent inserted rfl)
  | some row =>
    rw [found, Option.isSome_some, if_pos rfl] at inserted
    refine .intro (Embedded.call_createClient_exists now found) ?_ held
    exact withConnection_failed rfl (sent inserted rfl)

theorem locked {row : ClientRow} (found : db.clients.find? (·.record.id = client) = some row)
    (saved : Option Tables) :
    answer (.lockClient client) ⟨tablesOf db, saved⟩ =
      (.ok [columnsOf row], ⟨tablesOf db, saved⟩) := by
  rw [answer_lockClient db saved id, held.only found]
  rfl

omit held in
theorem unlocked (unknown : db.clients.find? (·.record.id = client) = none)
    (saved : Option Tables) :
    answer (.lockClient client) ⟨tablesOf db, saved⟩ = (.ok [], ⟨tablesOf db, saved⟩) := by
  rw [answer_lockClient db saved id, Held.none_of db unknown]
  rfl

theorem addVersion {parent version : String} (id₂ : Uuid.read? parent = some parent)
    (id₃ : Uuid.read? version = some version) (segment : Bytes)
    (accepted : ¬ Refused (Embedded.call now (.addVersion client parent version segment) [] db).1)
    (counted : ∀ record, (Embedded.call now (.addVersion client parent version segment) [] db).1 =
      .ok (.committed record) → record.sinceSnapshot < 2 ^ 31) :
    Alike db now (.addVersion client parent version segment) := by
  cases found : db.clients.find? (·.record.id = client) with
  | none =>
    have lock := unlocked id found (some (tablesOf db))
    refine .intro (Embedded.call_addVersion_unknown now client found parent version segment) ?_ held
    exact transaction_failed rfl (sent lock rfl)
  | some row =>
    have lock := locked held id found (some (tablesOf db))
    by_cases head : row.record.head = parent
    · cases repeated : repeatedKey? db.versions ⟨client, version, parent, segment⟩ with
      | some columns =>
        rw [Embedded.call_addVersion_refused now found head repeated] at accepted
        exact absurd ⟨_, columns, rfl⟩ accepted
      | none =>
        have committed := Embedded.call_addVersion_committed now found head repeated
        -- The counter is the one column that a committed version could overflow.
        have storable : Storable (row.record.advance version) :=
          ⟨counted _ (by rw [committed]), (held.record found).timed⟩
        have inserted := answer_insertVersion db (some (tablesOf db)) id id₃ id₂ segment
          (by rw [found]; rfl) repeated
        have advanced := answer_advanceHead
          ⟨db.clients, db.versions ++ [⟨client, version, parent, segment⟩]⟩ (some (tablesOf db)) id
          id₃ (held.forall_own found storable)
        rw [held.only found] at advanced
        refine .intro committed ?_ (held.change found
          (fun row => { row with record := row.record.advance version }) (fun _ => rfl) storable _)
        refine transaction (required lock ?_)
        simp only [if_pos (show (columnsOf row).head = parent from head)]
        refine sent inserted (required advanced ?_)
        rw [Storable.toClient { row with record := row.record.advance version } storable]
        rfl
    · refine .intro (Embedded.call_addVersion_conflict now found head version segment) ?_ held
      refine transaction (required lock ?_)
      simp only [if_neg (show ¬ (columnsOf row).head = parent from head)]
      rfl

theorem addSnapshot {version : String} (id' : Uuid.read? version = some version) {i : Int}
    (clock : now = .finite i) (safe : i.natAbs < 2 ^ 53) (data : Bytes) (prune : Bool) :
    Alike db now (.addSnapshot client version data prune) := by
  subst clock
  cases found : db.clients.find? (·.record.id = client) with
  | none =>
    have lock := unlocked id found (some (tablesOf db))
    refine .intro (Embedded.call_addSnapshot_unknown _ client found version data prune) ?_ held
    exact transaction_failed rfl (sent lock rfl)
  | some row =>
    have lock := locked held id found (some (tablesOf db))
    by_cases head : row.record.head = version
    · have time : Embedded.timeColumn (.finite i) = some (.finite i) := rfl
      have accepted := Embedded.call_addSnapshot_accepted (.finite i) found head data prune
      rw [time] at accepted
      have storable : Storable (row.record.snapshotTaken version (some (.finite i))) :=
        ⟨Nat.two_pow_pos 31, fun t ht => ⟨i, (Option.some.inj ht).symm, safe⟩⟩
      have stored := answer_storeSnapshot db (some (tablesOf db)) id id' i data
        (held.forall_own found storable)
      rw [held.only found] at stored
      have back := Storable.toClient
        ⟨row.record.snapshotTaken version (some (.finite i)), some data⟩ storable
      refine .intro accepted ?_ (held.change found
        (fun row => ⟨row.record.snapshotTaken version (some (.finite i)), some data⟩)
        (fun _ => rfl) storable _)
      refine transaction (required lock ?_)
      simp only [if_pos (show (columnsOf row).head = version from head)]
      refine required stored ?_
      rw [back]
      cases prune with
      | false => rfl
      | true =>
        have pruned := answer_pruneVersions ⟨changeRow client (fun row =>
          ⟨row.record.snapshotTaken version (some (.finite i)), some data⟩) db.clients, db.versions⟩
          (some (tablesOf db)) id id'
        exact sent pruned rfl
    · refine .intro (Embedded.call_addSnapshot_mismatch _ found head data prune) ?_ held
      refine transaction (required lock ?_)
      simp only [if_neg (show ¬ (columnsOf row).head = version from head)]
      rfl

end Alike

theorem Held.alike {db : Database} (held : Held db) (c : Call) {i : Int} (safe : i.natAbs < 2 ^ 53)
    (ids : ∀ id ∈ c.ids, Uuid.read? id = some id)
    (accepted : ¬ Refused (Embedded.call (.finite i) c [] db).1)
    (counted : ∀ record ∈ c.told? (Embedded.call (.finite i) c [] db).1,
      record.sinceSnapshot < 2 ^ 31) : Alike db (.finite i) c := by
  cases c with
  | getClient client => exact .getClient held (ids client (by simp [Call.ids]))
  | createClient client => exact .createClient held (ids client (by simp [Call.ids]))
  | getSnapshot client => exact .getSnapshot held (ids client (by simp [Call.ids]))
  | getVersionByParent client parent =>
    exact .getVersionByParent held (ids client (by simp [Call.ids]))
      (ids parent (by simp [Call.ids]))
  | addVersion client parent version segment =>
    refine .addVersion held (ids client (by simp [Call.ids])) (ids parent (by simp [Call.ids]))
      (ids version (by simp [Call.ids])) segment accepted fun record committed => ?_
    refine counted record ?_
    rw [committed]
    rfl
  | addSnapshot client version data prune =>
    exact .addSnapshot held (ids client (by simp [Call.ids])) (ids version (by simp [Call.ids]))
      rfl safe data prune

end Sql

end TaskSync.Store

namespace TaskSync.Scenario

open Store

/-- A server with the answers to the calls that were put to it through a pool. -/
structure Attended where
  session : Sql.Session := {}
  history : History := []

namespace Attended

def call (a : Attended) (time : Number) (c : Call) : Attended :=
  let (reply, session) := Sql.Session.perform (Pooled.call time c) a.session
  ⟨session, a.history ++ [⟨time, c, reply⟩]⟩

/-- Puts calls to a server whose tables are empty. -/
def run (calls : List (Number × Call)) : Attended :=
  calls.foldl (fun a made => a.call made.1 made.2) {}

theorem run_snoc (calls : List (Number × Call)) (time : Number) (c : Call) :
    run (calls ++ [(time, c)]) = (run calls).call time c := by
  unfold run
  rw [List.foldl_append]
  rfl

end Attended

theorem not_refused_answer (l : Ledger) (stamp : Number → Option Number) (time : Number)
    (c : Call) : ¬ Refused (l.answer stamp time c) := by
  rintro ⟨context, columns, hreply⟩
  unfold Ledger.answer at hreply
  split at hreply <;> (repeat' split at hreply) <;> cases hreply

theorem Recorded.matched_of_fresh {calls : List (Number × Call)}
    (clock : ∀ made ∈ calls, made.1.isNaN = false)
    (fresh : FreshIds (run (.memory .empty) calls).history) :
    Matched (run (.memory .empty) calls) (run (.embedded {}) calls) := by
  rcases matched_or_refused false clock with
    matched | ⟨before, made, after, rfl, matched, refused, -⟩
  · exact matched
  · -- The ledger answers a call with a fresh id, and so no such call is refused.
    have grown : (run (.memory .empty) (before ++ [(made.1, made.2)])).history <+:
        (run (.memory .empty) (before ++ made :: after)).history :=
      history_grows _ ⟨after, by simp⟩
    have last := fresh.of_isPrefix grown
    rw [run_snoc] at last
    obtain ⟨stamp, keeps⟩ := keeps (.embedded false)
    have kept := keeps before (by
      rw [← matched.alike.answers]
      exact last.of_isPrefix (List.prefix_append ..))
    rw [← matched.alike.answers] at kept
    have isFresh : made.2.IsFresh (ledger made.2.client (run (.memory .empty) before).history) :=
      last _ _ [] rfl
    rw [(kept.call isFresh 0 made.1).1] at refused
    exact absurd refused (not_refused_answer _ stamp made.1 made.2)

/-- The server holds the rows that the database on its own has, and has answered as it did. -/
structure Attended.Mirrors (a : Attended) (r : Recorded) : Prop where
  answers : a.history = r.history
  tables : ∃ host, r.store = .embedded host ∧ host.faults = [] ∧ host.closed = [] ∧
    Sql.Held host.database ∧ a.session = ⟨Sql.tablesOf host.database, none⟩

theorem Attended.Mirrors.call {a : Attended} {r : Recorded} (mirrors : a.Mirrors r) {c : Call}
    {i : Int} (safe : i.natAbs < 2 ^ 53) (ids : ∀ id ∈ c.ids, Uuid.read? id = some id)
    (accepted : ¬ Refused (r.store.call 0 (.finite i) c).1)
    (counted : ∀ record ∈ c.told? (r.store.call 0 (.finite i) c).1,
      record.sinceSnapshot < 2 ^ 31) :
    (a.call (.finite i) c).Mirrors (r.call (.finite i) c) := by
  obtain ⟨answers, host, hstore, faults, closed, held, session⟩ := mirrors
  have database : r.store.call 0 (.finite i) c =
      ((Embedded.call (.finite i) c [] host.database).1,
        .embedded { host with database := (Embedded.call (.finite i) c [] host.database).2 }) := by
    simp only [hstore, Backing.call, closed, List.contains_nil, Bool.false_eq_true, if_false,
      Hosted.run, faults]
    rfl
  rw [database] at accepted counted
  obtain ⟨answered, heldThen⟩ := held.alike c safe ids accepted counted
  constructor
  case answers =>
    simp only [Attended.call, Recorded.call, session, answered, database, answers]
  case tables =>
    simp only [Attended.call, Recorded.call, session, answered, database]
    exact ⟨_, rfl, faults, closed, heldThen, rfl⟩

theorem Attended.mirrors {calls : List (Number × Call)}
    (clock : ∀ made ∈ calls, ∃ i : Int, made.1 = .finite i ∧ i.natAbs < 2 ^ 53)
    (ids : ∀ made ∈ calls, ∀ id ∈ made.2.ids, Uuid.read? id = some id)
    (accepted : ∀ e ∈ (Recorded.run (.embedded {}) calls).history, ¬ Refused e.reply)
    (counted : ∀ e ∈ (Recorded.run (.embedded {}) calls).history,
      ∀ record ∈ e.call.told? e.reply, record.sinceSnapshot < 2 ^ 31) :
    (Attended.run calls).Mirrors (Recorded.run (.embedded {}) calls) := by
  induction calls using List.reverseRecOn with
  | nil => exact ⟨rfl, {}, rfl, rfl, rfl, Sql.Held.empty, rfl⟩
  | append_singleton calls made ih =>
    obtain ⟨time, c⟩ := made
    obtain ⟨i, rfl, safe⟩ := clock (time, c) (by simp)
    rw [Recorded.run_snoc] at accepted counted ⊢
    rw [Attended.run_snoc]
    simp only [Recorded.call, List.mem_append, List.mem_singleton] at accepted counted
    have before := ih (fun made hmade => clock made (List.mem_append_left _ hmade))
      (fun made hmade => ids made (List.mem_append_left _ hmade))
      (fun e he => accepted e (.inl he)) fun e he => counted e (.inl he)
    exact before.call safe (ids (.finite i, c) (by simp)) (accepted _ (.inr rfl))
      (counted _ (.inr rfl))

/-- **The server is the store in memory.** Any calls with ids as they are kept, and with a new id
for every version, are answered alike by the pooled database and by the store in memory, as long as
the counts stay within their column. -/
theorem pooled_alike {calls : List (Number × Call)}
    (clock : ∀ made ∈ calls, ∃ i : Int, made.1 = .finite i ∧ i.natAbs < 2 ^ 53)
    (ids : ∀ made ∈ calls, ∀ id ∈ made.2.ids, Uuid.read? id = some id)
    (fresh : FreshIds (Recorded.run (.memory .empty) calls).history)
    (counted : ∀ e ∈ (Recorded.run (.memory .empty) calls).history,
      ∀ record ∈ e.call.told? e.reply, record.sinceSnapshot < 2 ^ 31) :
    (Attended.run calls).history = (Recorded.run (.memory .empty) calls).history := by
  have numbers : ∀ made ∈ calls, made.1.isNaN = false := by
    intro made hmade
    obtain ⟨i, hi, -⟩ := clock made hmade
    rw [hi]
    rfl
  have matched := Recorded.matched_of_fresh numbers fresh
  rw [matched.alike.answers] at counted ⊢
  exact (Attended.mirrors clock ids matched.alike.accepted counted).answers

/-- Calls about an unknown client, a version, snapshots of which one prunes, and stale calls. -/
def attendedRun : List (Number × Call) :=
  let c := "11111111-1111-4111-8111-111111111111"
  let v := "22222222-2222-4222-8222-222222222222"
  let w := "33333333-3333-4333-8333-333333333333"
  [(0, .getClient c), (1, .addVersion c nilId v []), (2, .createClient c), (3, .createClient c),
    (4, .addVersion c nilId v [1]), (5, .addVersion c nilId w [2]), (6, .addVersion c v w [3]),
    (7, .addSnapshot c v [4] true), (1700000000000, .addSnapshot c w [5] true), (9, .getClient c),
    (10, .getVersionByParent c nilId), (11, .getVersionByParent c v), (12, .getSnapshot c)]

theorem pooled_alike_pruned :
    (∀ made ∈ attendedRun, ∃ i : Int, made.1 = .finite i ∧ i.natAbs < 2 ^ 53) ∧
      (∀ made ∈ attendedRun, ∀ id ∈ made.2.ids, Uuid.read? id = some id) ∧
      FreshIds (Recorded.run (.memory .empty) attendedRun).history ∧
      (∀ e ∈ (Recorded.run (.memory .empty) attendedRun).history,
        ∀ record ∈ e.call.told? e.reply, record.sinceSnapshot < 2 ^ 31) ∧
      (Attended.run attendedRun).history =
        (Recorded.run (.memory .empty) attendedRun).history := by
  have clock : ∀ made ∈ attendedRun, ∃ i : Int, made.1 = .finite i ∧ i.natAbs < 2 ^ 53 := by
    have whole : ∀ made ∈ attendedRun, ∃ i ∈ made.1.toInt?, made.1 = .finite i ∧
        i.natAbs < 2 ^ 53 := by
      decide +kernel
    intro made hmade
    obtain ⟨i, -, hi⟩ := whole made hmade
    exact ⟨i, hi⟩
  have ids : ∀ made ∈ attendedRun, ∀ id ∈ made.2.ids, Uuid.read? id = some id := by
    decide +kernel
  have fresh : FreshIds (Recorded.run (.memory .empty) attendedRun).history := by
    decide +kernel
  have counted : ∀ e ∈ (Recorded.run (.memory .empty) attendedRun).history,
      ∀ record ∈ e.call.told? e.reply, record.sinceSnapshot < 2 ^ 31 := by
    decide +kernel
  exact ⟨clock, ids, fresh, counted, pooled_alike clock ids fresh counted⟩

end TaskSync.Scenario
