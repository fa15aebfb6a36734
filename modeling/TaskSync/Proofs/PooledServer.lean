import TaskSync.Proofs.Atomicity
import TaskSync.Proofs.ServerTables

/-!
# The server holds the rows

The rows of the database on its own, as the server holds them in its tables, and
what each statement is answered over them. Nothing is lost in the columns: a time
comes back as decimal text, and is read as the number that it was.
-/

namespace TaskSync.Store.Sql

/-! ## Rows as the server holds them -/

def optional {α : Type} (wrap : α → Datum) (value : Option α) : Datum := (value.map wrap).getD .null

def millis? (time : Option Number) : Option Int := time.bind Number.toInt?

def clientTuple (row : ClientRow) : Tuple :=
  [("client_id", .uuid row.record.id), ("latest_version_id", .uuid row.record.head),
    ("snapshot_version_id", optional .uuid row.record.snapshotVersion),
    ("versions_since_snapshot", .whole row.record.sinceSnapshot),
    ("snapshot_timestamp", optional .whole (millis? row.record.snapshotTime)),
    ("snapshot", optional .bytes row.snapshot)]

def versionTuple (row : VersionRow) : Tuple :=
  [("client_id", .uuid row.client), ("version_id", .uuid row.version.id),
    ("parent_version_id", .uuid row.version.parent),
    ("history_segment", .bytes row.version.segment)]

def tablesOf (db : Database) : Tables := ⟨db.clients.map clientTuple, db.versions.map versionTuple⟩

/-- A client's columns as the driver returns them. -/
def columnsOf (row : ClientRow) : ClientColumns where
  client := row.record.id
  head := row.record.head
  snapshotVersion := row.record.snapshotVersion
  sinceSnapshot := row.record.sinceSnapshot
  snapshotTime :=
    (millis? row.record.snapshotTime).map fun i => .text (String.ofList (Number.decimal i))

theorem read_clientTuple (row : ClientRow) :
    (project .clients clientNames (clientTuple row)).clientColumns = columnsOf row := by
  unfold columnsOf clientTuple
  generalize millis? row.record.snapshotTime = time
  cases row.record.snapshotVersion <;> cases time <;> rfl

theorem read_snapshotTuple (row : ClientRow) (client : String) :
    (project .clients ["snapshot_version_id", "snapshot"] (clientTuple row)).read
      (.selectSnapshot client) =
        (⟨row.record.snapshotVersion, row.snapshot⟩ : SnapshotColumns) := by
  unfold clientTuple
  cases row.record.snapshotVersion <;> cases row.snapshot <;> rfl

/-- A record that the columns can hold. -/
structure Storable (record : Client) : Prop where
  counted : record.sinceSnapshot < 2 ^ 31
  timed : ∀ time ∈ record.snapshotTime, ∃ i : Int, time = .finite i ∧ i.natAbs < 2 ^ 53

theorem holds_integer {n : Nat} (counted : n < 2 ^ 31) : Kind.integer.holds (.whole n) = true := by
  unfold Kind.holds
  rw [Bool.and_eq_true, decide_eq_true_eq, decide_eq_true_eq]
  omega

theorem holds_bigint {i : Int} (safe : i.natAbs < 2 ^ 53) :
    Kind.bigint.holds (.whole i) = true := by
  unfold Kind.holds
  rw [Bool.and_eq_true, decide_eq_true_eq, decide_eq_true_eq]
  omega

theorem admits_whole (column : Column) (i : Int) :
    column.admits (.whole i) = column.kind.holds (.whole i) := by
  simp [Column.admits]

theorem Storable.fits {row : ClientRow} (storable : Storable row.record) :
    (clientTuple row).fits .clients = true := by
  have count : Column.admits ⟨"versions_since_snapshot", .integer, true, .whole 0⟩
      (.whole row.record.sinceSnapshot) = true := by
    rw [admits_whole]
    exact holds_integer storable.counted
  have time : Column.admits ⟨"snapshot_timestamp", .bigint, false, .null⟩
      (optional .whole (millis? row.record.snapshotTime)) = true := by
    cases taken : row.record.snapshotTime with
    | none => rfl
    | some time =>
      obtain ⟨i, rfl, safe⟩ := storable.timed time taken
      have whole : optional .whole (millis? (some (.finite i))) = .whole i := rfl
      rw [whole, admits_whole]
      exact holds_bigint safe
  have version : Column.admits ⟨"snapshot_version_id", .uuid, false, .null⟩
      (optional .uuid row.record.snapshotVersion) = true := by
    cases row.record.snapshotVersion <;> rfl
  have data : Column.admits ⟨"snapshot", .bytea, false, .null⟩
      (optional .bytes row.snapshot) = true := by
    cases row.snapshot <;> rfl
  have all : (clientTuple row).fits .clients =
      (true && (true && (Column.admits ⟨"snapshot_version_id", .uuid, false, .null⟩
        (optional .uuid row.record.snapshotVersion) &&
      (Column.admits ⟨"versions_since_snapshot", .integer, true, .whole 0⟩
        (.whole row.record.sinceSnapshot) &&
      (Column.admits ⟨"snapshot_timestamp", .bigint, false, .null⟩
        (optional .whole (millis? row.record.snapshotTime)) &&
      (Column.admits ⟨"snapshot", .bytea, false, .null⟩ (optional .bytes row.snapshot) &&
        true)))))) := rfl
  rw [all, version, count, time, data]
  rfl

theorem Storable.toClient (row : ClientRow) (storable : Storable row.record) :
    Pooled.toClient (columnsOf row) = row.record := by
  have time : (columnsOf row).snapshotTime.map Stamp.toNumber = row.record.snapshotTime := by
    unfold columnsOf
    cases taken : row.record.snapshotTime with
    | none => rfl
    | some time =>
      obtain ⟨i, rfl, safe⟩ := storable.timed time taken
      have whole : millis? (some (.finite i)) = some i := rfl
      simp only [whole, Option.map_some, Stamp.toNumber, Number.read_decimal safe]
  unfold Pooled.toClient
  rw [time]
  rfl

/-! ## Rows that a statement is about -/

theorem filter_tuples {α : Type} (tuple : α → Tuple) (chosen : Tuple → Bool) {p : α → Bool}
    (own : ∀ row, chosen (tuple row) = p row) (rows : List α) :
    (rows.map tuple).filter chosen = (rows.filter p).map tuple := by
  rw [List.filter_map]
  congr 2
  exact funext own

theorem met_uuid (column : String) (equal : Bool) (n : Nat) {t : Tuple} {stored value : String}
    (there : t.get column = .uuid stored) :
    Condition.met ⟨column, equal, n⟩ (.uuid value) t = (decide (stored = value) == equal) := by
  simp [Condition.met, there]

theorem value_uuid (relation : Relation) (column : String) {text : String} (n : Nat)
    (sent : List Parameter) (kind : kindOf? relation column = some .uuid)
    (there : sent[n - 1]? = some (.text text)) (id : Uuid.read? text = some text) :
    value? relation sent column n = some (.uuid text) := by
  simp [value?, kind, there, read?, id]

theorem returned_clients (rows : List ClientRow) :
    (returned .clients clientNames (rows.map clientTuple)).map Scenario.Row.clientColumns =
      rows.map columnsOf := by
  have names : clientNames.isEmpty = false := rfl
  simp only [returned, names, Bool.false_eq_true, if_false, List.map_map]
  exact List.map_congr_left fun row _ => read_clientTuple row

section

variable {client : String} (id : Uuid.read? client = some client)
include id

theorem chosen_client (n : Nat) (sent : List Parameter)
    (there : sent[n - 1]? = some (.text client)) :
    ∃ chosen, chosen? .clients sent [⟨"client_id", true, n⟩] = some chosen ∧
      ∀ row, chosen (clientTuple row) = decide (row.record.id = client) := by
  have value := value_uuid .clients "client_id" n sent (by decide) there id
  refine ⟨fun t => [Condition.met ⟨"client_id", true, n⟩ (.uuid client)].all (· t), ?_, ?_⟩
  · simp [chosen?, value]
  · intro row
    have stored : (clientTuple row).get "client_id" = .uuid row.record.id := rfl
    simp [met_uuid "client_id" true n stored]

theorem chosen_versions (column : String) (equal : Bool) {text : String} {sent : List Parameter}
    (kind : kindOf? .versions column = some .uuid) {stored : Version → String}
    (get : ∀ row, (versionTuple row).get column = .uuid (stored row.version))
    (there : sent = [.text client, .text text]) (id' : Uuid.read? text = some text) :
    ∃ chosen, chosen? .versions sent [⟨"client_id", true, 1⟩, ⟨column, equal, 2⟩] = some chosen ∧
      ∀ row, chosen (versionTuple row) =
        (decide (row.client = client) && (decide (stored row.version = text) == equal)) := by
  subst there
  have value := value_uuid .versions "client_id" 1 [.text client, .text text] (by decide) rfl id
  have value' := value_uuid .versions column 2 [.text client, .text text] kind rfl id'
  refine ⟨fun t => [Condition.met ⟨"client_id", true, 1⟩ (.uuid client),
    Condition.met ⟨column, equal, 2⟩ (.uuid text)].all (· t), ?_, ?_⟩
  · simp [chosen?, value, value']
  · intro row
    have own : (versionTuple row).get "client_id" = .uuid row.client := rfl
    simp [met_uuid "client_id" true 1 own, met_uuid column equal 2 (get row)]

end

/-! ## What each statement is answered -/

namespace Session

variable (db : Database) (saved : Option Tables)

section

variable {client : String} (id : Uuid.read? client = some client)
include id

theorem execute_selectClient (lock : Bool) :
    execute ⟨tablesOf db, saved⟩ [.text client]
        (.select clientNames .clients [⟨"client_id", true, 1⟩] lock) =
      (some (returned .clients clientNames
        ((db.clients.filter (·.record.id = client)).map clientTuple)), ⟨tablesOf db, saved⟩) := by
  obtain ⟨chosen, hchosen, own⟩ := chosen_client id 1 [.text client] rfl
  have rows := filter_tuples clientTuple chosen own db.clients
  simp only [execute, Query.execute, hchosen, Option.bind_eq_bind, Option.bind_some,
    Option.pure_def, Tables.rows, tablesOf, rows]

theorem answer_selectClient :
    answer (.selectClient client) ⟨tablesOf db, saved⟩ =
      (.ok ((db.clients.filter (·.record.id = client)).map columnsOf), ⟨tablesOf db, saved⟩) := by
  simp only [answer, parse, Statement.parameters, Option.getD_some,
    execute_selectClient db saved id]
  rw [← returned_clients]
  rfl

theorem answer_lockClient :
    answer (.lockClient client) ⟨tablesOf db, saved⟩ =
      (.ok ((db.clients.filter (·.record.id = client)).map columnsOf), ⟨tablesOf db, saved⟩) := by
  simp only [answer, parse, Statement.parameters, Option.getD_some,
    execute_selectClient db saved id]
  rw [← returned_clients]
  rfl

theorem answer_selectSnapshot :
    answer (.selectSnapshot client) ⟨tablesOf db, saved⟩ =
      (.ok ((db.clients.filter (·.record.id = client)).map fun row =>
        ⟨row.record.snapshotVersion, row.snapshot⟩), ⟨tablesOf db, saved⟩) := by
  obtain ⟨chosen, hchosen, own⟩ := chosen_client id 1 [.text client] rfl
  have rows := filter_tuples clientTuple chosen own db.clients
  simp only [answer, parse, Statement.parameters, Option.getD_some, execute, Query.execute, hchosen,
    Option.bind_eq_bind, Option.bind_some, Option.pure_def, Tables.rows, tablesOf, rows, returned,
    List.isEmpty_cons, Bool.false_eq_true, if_false, List.map_map]
  congr 2
  exact List.map_congr_left fun row _ => read_snapshotTuple row client

theorem answer_selectVersion {parent : String} (id' : Uuid.read? parent = some parent) :
    answer (.selectVersion client parent) ⟨tablesOf db, saved⟩ =
      (.ok ((db.versions.filter fun row =>
        row.client = client && row.version.parent = parent).map (·.version)),
        ⟨tablesOf db, saved⟩) := by
  obtain ⟨chosen, hchosen, own⟩ :=
    chosen_versions id "parent_version_id" true (by decide) (fun _ => rfl) rfl id'
  simp only [beq_true] at own
  have rows := filter_tuples versionTuple chosen own db.versions
  simp only [answer, parse, Statement.parameters, Option.getD_some, execute, Query.execute, hchosen,
    Option.bind_eq_bind, Option.bind_some, Option.pure_def, Tables.rows, tablesOf, rows, returned,
    List.isEmpty_cons, Bool.false_eq_true, if_false, List.map_map]
  rfl

theorem answer_pruneVersions {kept : String} (id' : Uuid.read? kept = some kept) :
    answer (.pruneVersions client kept) ⟨tablesOf db, saved⟩ =
      (.ok [], ⟨tablesOf { db with versions := db.versions.filter fun row =>
        !(row.client = client && row.version.id ≠ kept) }, saved⟩) := by
  obtain ⟨chosen, hchosen, own⟩ :=
    chosen_versions id "version_id" false (by decide) (fun _ => rfl) rfl id'
  have others : ∀ row, (!chosen (versionTuple row)) =
      !(decide (row.client = client) && decide (row.version.id ≠ kept)) := by
    intro row
    rw [own]
    simp
  have rows := filter_tuples versionTuple (fun t => !chosen t) others db.versions
  simp only [answer, parse, Statement.parameters, Option.getD_some, execute, Query.execute, hchosen,
    Option.bind_eq_bind, Option.bind_some, Option.pure_def, Tables.rows, Tables.put, tablesOf, rows,
    List.map_nil]

/-! ### Rows added -/

theorem newRow_client :
    newRow? .clients [.text client] ["client_id"] = some (clientTuple ⟨.fresh client, none⟩) := by
  have value := value_uuid .clients "client_id" 1 [.text client] (by decide) rfl id
  simp only [newRow?, List.zipIdx_cons, List.zipIdx_nil, List.mapM_cons, List.mapM_nil, value,
    Option.map_some, Option.bind_eq_bind, Option.bind_some, Option.pure_def]
  rfl

omit id in
theorem agrees_client (row : ClientRow) (new : ClientRow) :
    (clientTuple row).agrees ["client_id"] (clientTuple new) =
      decide (row.record.id = new.record.id) := by
  have own : (clientTuple row).get "client_id" = .uuid row.record.id := rfl
  have other : (clientTuple new).get "client_id" = .uuid new.record.id := rfl
  simp [Tuple.agrees, own, other]

omit id in
theorem any_clients (client : String) :
    (tablesOf db).clients.any (·.agrees ["client_id"] (clientTuple ⟨.fresh client, none⟩)) =
      (db.clients.find? (·.record.id = client)).isSome := by
  unfold tablesOf
  rw [List.any_map, List.isSome_find?]
  congr 1
  funext row
  exact agrees_client row _

theorem answer_insertClient :
    answer (.insertClient client) ⟨tablesOf db, saved⟩ =
      if (db.clients.find? (·.record.id = client)).isSome then
        (.ok [], ⟨tablesOf db, saved⟩)
      else (.ok [()], ⟨tablesOf { db with clients := db.clients ++ [⟨.fresh client, none⟩] },
        saved⟩) := by
  have fits : (clientTuple ⟨.fresh client, none⟩).fits .clients = true :=
    Storable.fits ⟨Nat.two_pow_pos 31, nofun⟩
  simp only [answer, parse, Statement.parameters, Option.getD_some, execute, Query.execute,
    newRow_client id, Option.bind_eq_bind, Option.bind_some, Option.pure_def, Tables.rows,
    List.isEmpty_cons, Bool.not_false, Bool.true_and, any_clients, Tables.takes, fits, keys,
    references, List.all_cons, List.all_nil, Bool.and_true]
  cases known : (db.clients.find? (·.record.id = client)).isSome with
  | true => rfl
  | false =>
    simp only [Bool.false_eq_true, if_false, Bool.not_false, if_true]
    simp only [Tables.put, tablesOf, List.map_append]
    rfl

omit id in
theorem any_versions (client : String) (new : Version) {column : String} (stored : Version → String)
    (get : ∀ row, (versionTuple row).get column = .uuid (stored row.version)) :
    (tablesOf db).versions.any (·.agrees ["client_id", column] (versionTuple ⟨client, new⟩)) =
      (versionsOf client db.versions).any fun v => decide (stored v = stored new) := by
  rw [← any_versionsOf db.versions client fun v => decide (stored v = stored new)]
  unfold tablesOf
  rw [List.any_map]
  congr 1
  funext row
  have own : ∀ row, (versionTuple row).get "client_id" = .uuid row.client := fun _ => rfl
  simp [Tuple.agrees, own, get]

omit id in
theorem takes_version {v : Version} (known : (db.clients.find? (·.record.id = client)).isSome)
    (free : repeatedKey? db.versions ⟨client, v⟩ = none) :
    (tablesOf db).takes .versions (versionTuple ⟨client, v⟩) = true := by
  have apart := repeatedKey?_eq_none_iff.mp free
  have fits : (versionTuple ⟨client, v⟩).fits .versions = true := rfl
  have ids : (tablesOf db).versions.any
      (·.agrees ["client_id", "version_id"] (versionTuple ⟨client, v⟩)) = false := by
    rw [any_versions db client v (·.id) fun _ => rfl]
    simpa using fun w hw => (apart w hw).2
  have parents : (tablesOf db).versions.any
      (·.agrees ["client_id", "parent_version_id"] (versionTuple ⟨client, v⟩)) = false := by
    rw [any_versions db client v (·.parent) fun _ => rfl]
    simpa using fun w hw => (apart w hw).1
  have owner : (tablesOf db).clients.any (fun other =>
      other.get "client_id" = (versionTuple ⟨client, v⟩).get "client_id") = true := by
    have own : ∀ row, (clientTuple row).get "client_id" = .uuid row.record.id := fun _ => rfl
    have new : (versionTuple ⟨client, v⟩).get "client_id" = .uuid client := rfl
    rw [List.isSome_find?] at known
    simpa [tablesOf, own, new] using known
  simp only [Tables.takes, fits, keys, references, List.all_cons, List.all_nil, Tables.rows, ids,
    parents, owner, Bool.not_false, Bool.and_true]

theorem answer_insertVersion {version parent : String} (id₂ : Uuid.read? version = some version)
    (id₃ : Uuid.read? parent = some parent) (segment : Bytes)
    (known : (db.clients.find? (·.record.id = client)).isSome)
    (free : repeatedKey? db.versions ⟨client, version, parent, segment⟩ = none) :
    answer (.insertVersion client version parent segment) ⟨tablesOf db, saved⟩ =
      (.ok [], ⟨tablesOf { db with
        versions := db.versions ++ [⟨client, version, parent, segment⟩] }, saved⟩) := by
  have row : newRow? .versions [.text client, .text version, .text parent, .bytes segment]
      ["client_id", "version_id", "parent_version_id", "history_segment"] =
      some (versionTuple ⟨client, version, parent, segment⟩) := by
    have value₁ := value_uuid .versions "client_id" 1
      [.text client, .text version, .text parent, .bytes segment] (by decide) rfl id
    have value₂ := value_uuid .versions "version_id" 2
      [.text client, .text version, .text parent, .bytes segment] (by decide) rfl id₂
    have value₃ := value_uuid .versions "parent_version_id" 3
      [.text client, .text version, .text parent, .bytes segment] (by decide) rfl id₃
    have value₄ : value? .versions [.text client, .text version, .text parent, .bytes segment]
        "history_segment" 4 = some (.bytes segment) := rfl
    simp only [newRow?, List.zipIdx_cons, List.zipIdx_nil, List.mapM_cons, List.mapM_nil,
      Nat.reduceAdd, value₁, value₂, value₃, value₄, Option.map_some, Option.bind_eq_bind,
      Option.bind_some, Option.pure_def]
    rfl
  have takes := takes_version db known free
  simp only [answer, parse, Statement.parameters, Option.getD_some, execute, Query.execute, row,
    Option.bind_eq_bind, Option.bind_some, Option.pure_def, List.isEmpty_nil, Bool.not_true,
    Bool.false_and, Bool.false_eq_true, if_false, takes, if_true]
  simp only [Tables.put, Tables.rows, tablesOf, returned, List.isEmpty_nil, if_true,
    List.map_append, List.map_cons, List.map_nil]

/-! ### Rows changed -/

theorem execute_update {sent : List Parameter} (n : Nat)
    (there : sent[n - 1]? = some (.text client))
    {assignments : List (String × Term)} {assign : Tuple → Tuple}
    (hassign : assign? .clients sent assignments = some assign) (change : ClientRow → ClientRow)
    (changes : ∀ row, assign (clientTuple row) = clientTuple (change row))
    (storable : ∀ row ∈ db.clients, row.record.id = client → Storable (change row).record) :
    execute ⟨tablesOf db, saved⟩ sent
        (.update .clients assignments [⟨"client_id", true, n⟩] clientNames) =
      (some (returned .clients clientNames
        (((db.clients.filter (·.record.id = client)).map change).map clientTuple)),
        ⟨tablesOf ⟨changeRow client change db.clients, db.versions⟩, saved⟩) := by
  obtain ⟨chosen, hchosen, own⟩ := chosen_client id n sent there
  have rows := filter_tuples clientTuple chosen own db.clients
  have changed : ((db.clients.filter (·.record.id = client)).map clientTuple).map assign =
      ((db.clients.filter (·.record.id = client)).map change).map clientTuple := by
    rw [List.map_map, List.map_map]
    exact List.map_congr_left fun row _ => changes row
  have fits : (((db.clients.filter (·.record.id = client)).map change).map clientTuple).all
      (·.fits .clients) = true := by
    rw [List.map_map, List.all_map, List.all_eq_true]
    intro row hrow
    obtain ⟨hmem, howner⟩ := List.mem_filter.mp hrow
    rw [Function.comp_apply, Function.comp_apply]
    exact (storable row hmem (of_decide_eq_true howner)).fits
  have after : ((db.clients.map clientTuple).map fun t => if chosen t then assign t else t) =
      (changeRow client change db.clients).map clientTuple := by
    unfold changeRow
    rw [List.map_map, List.map_map]
    refine List.map_congr_left fun row _ => ?_
    simp only [Function.comp_apply, own, decide_eq_true_eq, changes]
    split <;> rfl
  simp only [execute, Query.execute, hchosen, hassign, Option.bind_eq_bind, Option.bind_some,
    Option.pure_def, Tables.rows, tablesOf, rows, changed, fits, if_true, Tables.put, after]

theorem answer_advanceHead {version : String} (id' : Uuid.read? version = some version)
    (storable : ∀ row ∈ db.clients, row.record.id = client →
      Storable (row.record.advance version)) :
    answer (.advanceHead version client) ⟨tablesOf db, saved⟩ =
      (.ok (((db.clients.filter (·.record.id = client)).map fun row =>
          { row with record := row.record.advance version }).map columnsOf),
        ⟨tablesOf ⟨changeRow client (fun row => { row with record := row.record.advance version })
          db.clients, db.versions⟩, saved⟩) := by
  have value := value_uuid .clients "latest_version_id" 1 [.text version, .text client] (by decide)
    rfl id'
  have assign : assign? .clients [.text version, .text client]
      [("latest_version_id", .placeholder 1),
        ("versions_since_snapshot", .sum "versions_since_snapshot" 1)] =
      some fun t => (t.set "latest_version_id" (.uuid version)).set "versions_since_snapshot"
        ((t.get "versions_since_snapshot").plus 1) := by
    simp only [assign?, List.mapM_cons, List.mapM_nil, Term.bind?, value, Option.map_some,
      Option.bind_eq_bind, Option.bind_some, Option.pure_def]
    rfl
  have executed := execute_update db saved id 2 rfl assign
    (fun row => { row with record := row.record.advance version }) (fun _ => rfl) storable
  simp only [answer, parse, Statement.parameters, Option.getD_some, executed]
  rw [← returned_clients]
  rfl

theorem answer_storeSnapshot {version : String} (id' : Uuid.read? version = some version) (i : Int)
    (data : Bytes) (storable : ∀ row ∈ db.clients, row.record.id = client →
      Storable (row.record.snapshotTaken version (some (.finite i)))) :
    answer (.storeSnapshot version (.finite i) data client) ⟨tablesOf db, saved⟩ =
      (.ok (((db.clients.filter (·.record.id = client)).map fun row =>
          ⟨row.record.snapshotTaken version (some (.finite i)), some data⟩).map columnsOf),
        ⟨tablesOf ⟨changeRow client
          (fun row => ⟨row.record.snapshotTaken version (some (.finite i)), some data⟩)
          db.clients, db.versions⟩, saved⟩) := by
  have value₁ := value_uuid .clients "snapshot_version_id" 1
    [.text version, .number (.finite i), .bytes data, .text client] (by decide) rfl id'
  have value₂ : value? .clients [.text version, .number (.finite i), .bytes data, .text client]
      "snapshot_timestamp" 2 = some (.whole i) := rfl
  have value₃ : value? .clients [.text version, .number (.finite i), .bytes data, .text client]
      "snapshot" 3 = some (.bytes data) := rfl
  have assign : assign? .clients [.text version, .number (.finite i), .bytes data, .text client]
      [("snapshot_version_id", .placeholder 1), ("snapshot_timestamp", .placeholder 2),
        ("versions_since_snapshot", .number 0), ("snapshot", .placeholder 3)] =
      some fun t => (((t.set "snapshot_version_id" (.uuid version)).set "snapshot_timestamp"
        (.whole i)).set "versions_since_snapshot" (.whole 0)).set "snapshot" (.bytes data) := by
    simp only [assign?, List.mapM_cons, List.mapM_nil, Term.bind?, value₁, value₂, value₃,
      Option.map_some, Option.bind_eq_bind, Option.bind_some, Option.pure_def]
    rfl
  have executed := execute_update db saved id 4 rfl assign
    (fun row => ⟨row.record.snapshotTaken version (some (.finite i)), some data⟩) (fun _ => rfl)
    storable
  simp only [answer, parse, Statement.parameters, Option.getD_some, executed]
  rw [← returned_clients]
  rfl

end

end Session

end TaskSync.Store.Sql
