import TaskSync.Proofs.Atomicity
import TaskSync.Proofs.Exchanges

/-!
# Row locks

A call that writes to a database server locks the client's row first, and looks
at the head there. Whatever the connection answers, it writes only if that head
is the one that the call names, and says so only if the commit succeeded.
-/

namespace TaskSync.Store

/-! ## The statements among what is asked -/

def Asked.sent? : Asked → Option Sent
  | ⟨.run statement, answer⟩ => some ⟨statement, answer⟩
  | _ => none

def sentIn (asked : List Asked) : List Sent := asked.filterMap Asked.sent?

@[simp] theorem sentIn_connected (sent : List Sent) (answer : Except Failure Unit)
    (released : Option Failure) :
    sentIn (⟨.connect, answer⟩ :: (sent.map Sent.asked ++ [⟨.release released, ()⟩])) = sent := by
  have statements : (sent.map Sent.asked).filterMap Asked.sent? = sent := by
    rw [List.filterMap_map]
    exact List.filterMap_some
  unfold sentIn
  rw [List.filterMap_cons_none rfl, List.filterMap_append, statements,
    List.filterMap_cons_none rfl, List.filterMap_nil, List.append_nil]

theorem Closes.delimits {α : Type} {context : String} {done result : Except Failure α}
    {closing : List Sent} {released : Option Failure}
    (closes : Closes context done closing released result) :
    ∀ s ∈ closing, s.statement.delimits = true := by
  cases closes <;> simp [Statement.delimits]

theorem Framed.work_of_mem {α : Type} {context : String}
    {spec : List Sent → Except Failure α → Prop} {sent : List Sent} {released : Option Failure}
    {result : Except Failure α} (framed : Framed context spec sent released result) {s : Sent}
    (hs : s ∈ sent) (inside : s.statement.delimits = false) :
    ∃ begun work closing done, sent = ⟨.begin, .ok begun⟩ :: (work ++ closing) ∧
      spec work done ∧ Closes context done closing released result ∧ s ∈ work := by
  cases framed with
  | notBegun failure answer =>
    obtain rfl | rfl : s = _ ∨ s = _ := by simpa using hs
    all_goals cases inside
  | @begun rows work closing done _ _ meets closes =>
    refine ⟨rows, work, closing, done, rfl, meets, closes, ?_⟩
    rcases List.mem_cons.mp hs with rfl | hs
    · cases inside
    rcases List.mem_append.mp hs with hs | hs
    · exact hs
    · cases inside.symm.trans (closes.delimits s hs)

/-! ## Work behind a lock -/

def Call.changes (now : Number) : Call → List Statement
  | .addVersion client parent version segment =>
    [.insertVersion client version parent segment, .advanceHead version client]
  | .addSnapshot client version data prune =>
    .storeSnapshot version now data client :: if prune then [.pruneVersions client version] else []
  | _ => []

/-- The head that is answered if it is not the one that the call names. -/
def Call.refusal? : (c : Call) → Except Failure c.Reply → Option String
  | .addVersion .., .ok (.conflict head) => some head
  | .addSnapshot .., .ok (.mismatch head) => some head
  | _, _ => none

namespace Sent

/-- The answer has no row where there must be one. -/
def LacksRow (s : Sent) : Prop := s.statement.missing ≠ none ∧ s.answer = .ok []

/-- The record in the row that an update returns. -/
def record? : Sent → Option Client
  | ⟨.advanceHead .., .ok (row :: _)⟩ => some (Pooled.toClient row)
  | ⟨.storeSnapshot .., .ok (row :: _)⟩ => some (Pooled.toClient row)
  | _ => none

end Sent

/-- Statements are sent in order until one of them fails or lacks its row. -/
inductive Performs : List Statement → List Sent → Option Failure → Prop where
  | nil : Performs [] [] none
  | failed (statement : Statement) (rest : List Statement) (failure : Failure) :
      Performs (statement :: rest) [⟨statement, .error failure⟩] (some failure)
  | noRow {statement : Statement} {failure : Failure} (missing : statement.missing = some failure)
      (rest : List Statement) :
      Performs (statement :: rest) [⟨statement, .ok []⟩] (some failure)
  | cons {statement : Statement} {rows : List statement.Row}
      (row : ¬ (⟨statement, .ok rows⟩ : Sent).LacksRow) {rest : List Statement} {sent : List Sent}
      {failure : Option Failure} (performs : Performs rest sent failure) :
      Performs (statement :: rest) (⟨statement, .ok rows⟩ :: sent) failure

namespace Performs

variable {statements : List Statement} {sent : List Sent} {failure : Option Failure}

theorem isPrefix (performs : Performs statements sent failure) :
    sent.map (·.statement) <+: statements := by
  induction performs with
  | nil => exact List.prefix_rfl
  | failed statement rest | noRow _ rest => exact ⟨rest, rfl⟩
  | cons row performs ih => exact List.prefix_cons_inj _ |>.mpr ih

theorem all_of_none (performs : Performs statements sent none) :
    sent.map (·.statement) = statements ∧ ∀ s ∈ sent, s.Succeeds := by
  generalize hnone : (none : Option Failure) = failure at performs
  induction performs with
  | nil => exact ⟨rfl, List.forall_mem_nil _⟩
  | failed | noRow => cases hnone
  | @cons statement rows row rest sent failure performs ih =>
    obtain ⟨hmap, succeeded⟩ := ih hnone
    exact ⟨congrArg _ hmap, List.forall_mem_cons.mpr ⟨⟨rows, rfl⟩, succeeded⟩⟩

theorem ends_at_lack (performs : Performs statements sent failure) {s : Sent} (hs : s ∈ sent)
    (lacks : s.LacksRow) : failure = s.statement.missing ∧
      ∃ before, sent = before ++ [s] ∧ ∀ t ∈ before, ¬ t.LacksRow := by
  induction performs with
  | nil => cases hs
  | failed statement rest failure =>
    obtain rfl := List.mem_singleton.mp hs
    cases lacks.2
  | noRow missing rest =>
    obtain rfl := List.mem_singleton.mp hs
    exact ⟨missing.symm, [], rfl, List.forall_mem_nil _⟩
  | cons row performs ih =>
    rcases List.mem_cons.mp hs with rfl | hs
    · exact absurd lacks row
    · obtain ⟨hfailure, before, rfl, hbefore⟩ := ih hs
      exact ⟨hfailure, _ :: before, rfl, List.forall_mem_cons.mpr ⟨row, hbefore⟩⟩

end Performs

/-- The work of a call that names the head `expected`, and what it comes to. -/
inductive Locks (now : Number) (c : Call) (expected : String) :
    List Sent → Except Failure c.Reply → Prop where
  | failed (failure : Failure) :
      Locks now c expected [⟨.lockClient c.client, .error failure⟩] (.error failure)
  | unknown :
      Locks now c expected [⟨.lockClient c.client, .ok []⟩] (.error (.noSuchClient c.client))
  | refused {row : ClientColumns} (rows : List ClientColumns) (other : row.head ≠ expected)
      {value : c.Reply} (refusal : c.refusal? (.ok value) = some row.head) :
      Locks now c expected [⟨.lockClient c.client, .ok (row :: rows)⟩] (.ok value)
  | broken {row : ClientColumns} (rows : List ClientColumns) (head : row.head = expected)
      {writes : List Sent} {failure : Failure}
      (performs : Performs (c.changes now) writes (some failure)) :
      Locks now c expected (⟨.lockClient c.client, .ok (row :: rows)⟩ :: writes) (.error failure)
  | changed {row : ClientColumns} (rows : List ClientColumns) (head : row.head = expected)
      {writes : List Sent} (performs : Performs (c.changes now) writes none) {value : c.Reply}
      {record : Client} (returned : ∃ s ∈ writes, s.record? = some record)
      (told : c.told? (.ok value) = some record) :
      Locks now c expected (⟨.lockClient c.client, .ok (row :: rows)⟩ :: writes) (.ok value)

namespace Pooled

variable (now : Number) {asked : List Asked}

theorem locks_addVersion (client parent version : String) (segment : Bytes)
    {result : Except Failure Appended}
    (course : Course (addVersion client parent version segment).run asked result) :
    Disciplined (Framed "error adding version"
      (Locks now (.addVersion client parent version segment) parent)) asked result := by
  refine Exchange.Obeys.transaction ?_ _ course
  refine .runRow rfl (fun failure => .failed failure) .unknown fun locked others => ?_
  change Exchange.Obeys _ (if locked.head = parent then _ else _)
  split
  case isTrue head =>
    refine .run (fun failure => .broken others head (.failed _ _ failure)) fun inserted => ?_
    have insertion : ¬ (⟨.insertVersion client version parent segment, .ok inserted⟩ : Sent).LacksRow :=
      fun lacks => lacks.1 rfl
    refine .runRow rfl (fun failure => .broken others head (.cons insertion (.failed _ _ failure)))
      (.broken others head (.cons insertion (.noRow rfl _))) fun updated more => .pure ?_
    have update : ¬ (⟨.advanceHead version client, .ok (updated :: more)⟩ : Sent).LacksRow :=
      fun lacks => nomatch lacks.2
    have performs : Performs (Call.changes now (.addVersion client parent version segment)) _ none :=
      .cons insertion (.cons update .nil)
    exact .changed others head performs ⟨_, List.mem_cons_of_mem _ List.mem_cons_self, rfl⟩ rfl
  case isFalse other => exact .pure (.refused others other rfl)

theorem locks_addSnapshot (client version : String) (data : Bytes) (prune : Bool)
    {result : Except Failure Stored}
    (course : Course (addSnapshot now client version data prune).run asked result) :
    Disciplined (Framed "error setting snapshot"
      (Locks now (.addSnapshot client version data prune) version)) asked result := by
  refine Exchange.Obeys.transaction ?_ _ course
  refine .runRow rfl (fun failure => .failed failure) .unknown fun locked others => ?_
  change Exchange.Obeys _ (if locked.head = version then _ else _)
  split
  case isTrue head =>
    refine .runRow rfl (fun failure => .broken others head (.failed _ _ failure))
      (.broken others head (.noRow rfl _)) fun updated more => ?_
    have update : ¬ (⟨.storeSnapshot version now data client, .ok (updated :: more)⟩ : Sent).LacksRow :=
      fun lacks => nomatch lacks.2
    cases prune with
    | false =>
      have performs : Performs (Call.changes now (.addSnapshot client version data false)) _ none :=
        .cons update .nil
      exact .pure (.changed others head performs ⟨_, List.mem_cons_self, rfl⟩ rfl)
    | true =>
      refine Exchange.Obeys.run
        (fun failure => .broken others head (.cons update (.failed _ _ failure))) fun deleted => ?_
      have deletion : ¬ (⟨.pruneVersions client version, .ok deleted⟩ : Sent).LacksRow :=
        fun lacks => lacks.1 rfl
      have performs : Performs (Call.changes now (.addSnapshot client version data true)) _ none :=
        .cons update (.cons deletion .nil)
      exact .pure (.changed others head performs ⟨_, List.mem_cons_self, rfl⟩ rfl)
  case isFalse other => exact .pure (.refused others other rfl)

theorem locks_call {c : Call} {expected : String} (names : c.expected? = some expected)
    {result : Except Failure c.Reply} (course : Course (call now c).run asked result) :
    Disciplined (Framed (context c) (Locks now c expected)) asked result := by
  cases c with
  | addVersion client parent version segment =>
    cases names
    exact locks_addVersion now client _ version segment course
  | addSnapshot client version data prune =>
    cases names
    exact locks_addSnapshot now client _ data prune course
  | getClient | createClient | getVersionByParent | getSnapshot => cases names

end Pooled

/-! ## What the writes carry -/

/-- The text of a write of a call, with the values for its placeholders. -/
inductive Carries (now : Number) : Call → String → List Parameter → Prop where
  | insertion (client parent version : String) (segment : Bytes) :
      Carries now (.addVersion client parent version segment)
        ("INSERT INTO versions (client_id, version_id, parent_version_id, history_segment) " ++
          "VALUES ($1, $2, $3, $4)")
        [.text client, .text version, .text parent, .bytes segment]
  | advance (client parent version : String) (segment : Bytes) :
      Carries now (.addVersion client parent version segment)
        ("UPDATE clients SET latest_version_id = $1, " ++
          "versions_since_snapshot = versions_since_snapshot + 1 WHERE client_id = $2 RETURNING " ++
          Statement.clientColumns)
        [.text version, .text client]
  | snapshot (client version : String) (data : Bytes) (prune : Bool) :
      Carries now (.addSnapshot client version data prune)
        ("UPDATE clients SET snapshot_version_id = $1, snapshot_timestamp = $2, " ++
          "versions_since_snapshot = 0, snapshot = $3 WHERE client_id = $4 RETURNING " ++
          Statement.clientColumns)
        [.text version, .number now, .bytes data, .text client]
  /-- Only where versions are to be pruned. The snapshot's own is kept. -/
  | pruning (client version : String) (data : Bytes) :
      Carries now (.addSnapshot client version data true)
        "DELETE FROM versions WHERE client_id = $1 AND version_id <> $2"
        [.text client, .text version]

namespace Call

/-- What a call may change, one change at a time. -/
inductive Makes (now : Number) : Call → Statement → Prop where
  | insertion (client parent version : String) (segment : Bytes) :
      Makes now (.addVersion client parent version segment)
        (.insertVersion client version parent segment)
  | advance (client parent version : String) (segment : Bytes) :
      Makes now (.addVersion client parent version segment) (.advanceHead version client)
  | snapshot (client version : String) (data : Bytes) (prune : Bool) :
      Makes now (.addSnapshot client version data prune) (.storeSnapshot version now data client)
  | pruning (client version : String) (data : Bytes) :
      Makes now (.addSnapshot client version data true) (.pruneVersions client version)

variable {now : Number} {c : Call} {statement : Statement}

theorem makes_of_mem (change : statement ∈ c.changes now) : Makes now c statement := by
  cases c with
  | addVersion client parent version segment =>
    obtain rfl | rfl : statement = _ ∨ statement = _ := by simpa [changes] using change
    · exact .insertion client parent version segment
    · exact .advance client parent version segment
  | addSnapshot client version data prune =>
    rcases List.mem_cons.mp change with rfl | change
    · exact .snapshot client version data prune
    · cases prune with
      | false => cases change
      | true =>
        obtain rfl := List.mem_singleton.mp change
        exact .pruning client version data
  | getClient | createClient | getVersionByParent | getSnapshot => cases change

theorem Makes.writes (makes : Makes now c statement) : statement.writes = true := by
  cases makes <;> rfl

theorem Makes.carries (makes : Makes now c statement) :
    ∃ values, statement.parameters = some values ∧ Carries now c statement.sql values := by
  cases makes with
  | insertion => exact ⟨_, rfl, .insertion ..⟩
  | advance => exact ⟨_, rfl, .advance ..⟩
  | snapshot => exact ⟨_, rfl, .snapshot ..⟩
  | pruning => exact ⟨_, rfl, .pruning ..⟩

theorem Makes.missing (makes : Makes now c statement) {failure : Failure}
    (missing : statement.missing = some failure) : failure = .noSuchClient c.client := by
  cases makes with
  | insertion | pruning => cases missing
  | advance | snapshot => exact (Option.some.inj missing).symm

end Call

/-! ## Every call that writes behind a lock -/

/-- What a call that names the head `expected` sends to the server, and its result. -/
structure WritesLocked (now : Number) (c : Call) (expected : String) (sent : List Sent)
    (result : Except Failure c.Reply) : Prop where
  /-- A write is sent after a begin and after a lock whose first row has that head. Between these
  and the write are the writes that come before it. -/
  locked : ∀ s ∈ sent, s.statement.writes = true → ∃ begun row rows writes closing,
    sent = ⟨.begin, .ok begun⟩ :: ⟨.lockClient c.client, .ok (row :: rows)⟩ :: (writes ++ closing) ∧
      row.head = expected ∧ s ∈ writes ∧ writes.map (·.statement) <+: c.changes now
  /-- It carries what the call was given. -/
  carries : ∀ s ∈ sent, s.statement.writes = true →
    ∃ values, s.statement.parameters = some values ∧ Carries now c s.statement.sql values
  /-- If the locked row has another head, nothing is written, a commit is tried, and that head is
  the answer if the commit succeeds. -/
  otherHead : ∀ row rows, ⟨.lockClient c.client, .ok (row :: rows)⟩ ∈ sent → row.head ≠ expected →
    (∀ s ∈ sent, s.statement.writes = false) ∧ (∃ answer, ⟨.commit, answer⟩ ∈ sent) ∧
      ∀ ended, ⟨.commit, .ok ended⟩ ∈ sent → c.refusal? result = some row.head
  /-- If the lock or an update finds no row, only a rollback follows, and the client is unknown. -/
  noRow : ∀ s ∈ sent, s.LacksRow → result = .error (.noSuchClient c.client) ∧
    ∃ before answer, sent = before ++ [s, ⟨.rollback, answer⟩] ∧ ∀ t ∈ before, ¬ t.LacksRow
  /-- A record is answered only if the lock, every write and the commit succeeded. It is the one in
  the row that the update returned. -/
  told : ∀ record, c.told? result = some record → ∃ begun row rows writes ended,
    sent = ⟨.begin, .ok begun⟩ :: ⟨.lockClient c.client, .ok (row :: rows)⟩ ::
        (writes ++ [⟨.commit, .ok ended⟩]) ∧
      row.head = expected ∧ writes.map (·.statement) = c.changes now ∧
      (∀ s ∈ writes, s.Succeeds) ∧ ∃ s ∈ writes, s.record? = some record

theorem Statement.delimits_of_writes {statement : Statement} (writes : statement.writes = true) :
    statement.delimits = false := by
  cases statement <;> first | rfl | cases writes

theorem Statement.delimits_of_missing {statement : Statement} (missing : statement.missing ≠ none) :
    statement.delimits = false := by
  cases statement <;> first | rfl | exact absurd rfl missing

theorem Call.told?_error {c : Call} (failure : Failure) : c.told? (.error failure) = none := by
  cases c <;> rfl

theorem Call.told?_of_refusal {c : Call} {result : Except Failure c.Reply} {head : String}
    (refusal : c.refusal? result = some head) : c.told? result = none := by
  cases c
  case addVersion => rcases result with failure | (record | head) <;> first | rfl | cases refusal
  case addSnapshot => rcases result with failure | (record | head) <;> first | rfl | cases refusal
  all_goals cases refusal

section

variable {now : Number} {c : Call} {expected : String}

theorem Locks.writes_mem {work : List Sent} {done : Except Failure c.Reply}
    (locks : Locks now c expected work done) {s : Sent} (hs : s ∈ work)
    (hwrites : s.statement.writes = true) : ∃ row rows writes,
      work = ⟨.lockClient c.client, .ok (row :: rows)⟩ :: writes ∧ row.head = expected ∧
        s ∈ writes ∧ writes.map (·.statement) <+: c.changes now := by
  cases locks with
  | failed | unknown | refused =>
    obtain rfl := List.mem_singleton.mp hs
    cases hwrites
  | @broken row rows head writes _ performs | @changed row rows head writes performs =>
    rcases List.mem_cons.mp hs with rfl | hs
    · cases hwrites
    · exact ⟨row, rows, writes, rfl, head, hs, performs.isPrefix⟩

theorem Locks.of_otherHead {work : List Sent} {done : Except Failure c.Reply}
    (locks : Locks now c expected work done) {row : ClientColumns} {rows : List ClientColumns}
    (hs : ⟨.lockClient c.client, .ok (row :: rows)⟩ ∈ work) (other : row.head ≠ expected) :
    work = [⟨.lockClient c.client, .ok (row :: rows)⟩] ∧
      ∃ value, done = .ok value ∧ c.refusal? (.ok value) = some row.head := by
  cases locks with
  | failed | unknown => cases List.mem_singleton.mp hs
  | @refused _ _ _ value refusal =>
    cases List.mem_singleton.mp hs
    exact ⟨rfl, value, rfl, refusal⟩
  | broken rows head performs | changed rows head performs =>
    rcases List.mem_cons.mp hs with hs | hs
    · cases hs
      exact absurd head other
    · -- No write is a lock.
      have change := performs.isPrefix.subset (List.mem_map_of_mem hs)
      cases (Call.makes_of_mem change).writes

theorem Locks.of_lacksRow {work : List Sent} {done : Except Failure c.Reply}
    (locks : Locks now c expected work done) {s : Sent} (hs : s ∈ work) (lacks : s.LacksRow) :
    done = .error (.noSuchClient c.client) ∧
      ∃ before, work = before ++ [s] ∧ ∀ t ∈ before, ¬ t.LacksRow := by
  cases locks with
  | failed | refused =>
    obtain rfl := List.mem_singleton.mp hs
    cases lacks.2
  | unknown =>
    obtain rfl := List.mem_singleton.mp hs
    exact ⟨rfl, [], rfl, List.forall_mem_nil _⟩
  | @broken row rows head writes failure performs =>
    have locked : ¬ (⟨.lockClient c.client, .ok (row :: rows)⟩ : Sent).LacksRow :=
      fun lacks => nomatch lacks.2
    rcases List.mem_cons.mp hs with rfl | hs
    · exact absurd lacks locked
    obtain ⟨missing, before, rfl, hbefore⟩ := performs.ends_at_lack hs lacks
    have change := performs.isPrefix.subset (List.mem_map_of_mem hs)
    refine ⟨?_, _ :: before, rfl, List.forall_mem_cons.mpr ⟨locked, hbefore⟩⟩
    rw [(Call.makes_of_mem change).missing missing.symm]
  | changed rows head performs =>
    rcases List.mem_cons.mp hs with rfl | hs
    · cases lacks.2
    · obtain ⟨missing, -⟩ := performs.ends_at_lack hs lacks
      exact absurd missing.symm lacks.1

theorem WritesLocked.of_framed {context : String} {sent : List Sent} {released : Option Failure}
    {result : Except Failure c.Reply}
    (framed : Framed context (Locks now c expected) sent released result) :
    WritesLocked now c expected sent result where
  locked s hs hwrites := by
    obtain ⟨begun, work, closing, done, rfl, locks, -, hs⟩ :=
      framed.work_of_mem hs (Statement.delimits_of_writes hwrites)
    obtain ⟨row, rows, writes, rfl, head, hs, isPrefix⟩ := locks.writes_mem hs hwrites
    exact ⟨begun, row, rows, writes, closing, rfl, head, hs, isPrefix⟩
  carries s hs hwrites := by
    obtain ⟨begun, work, closing, done, rfl, locks, -, hs⟩ :=
      framed.work_of_mem hs (Statement.delimits_of_writes hwrites)
    obtain ⟨row, rows, writes, rfl, head, hs, isPrefix⟩ := locks.writes_mem hs hwrites
    exact (Call.makes_of_mem (isPrefix.subset (List.mem_map_of_mem hs))).carries
  otherHead row rows hs other := by
    obtain ⟨begun, work, closing, done, rfl, locks, closes, hs⟩ := framed.work_of_mem hs rfl
    obtain ⟨rfl, value, rfl, refusal⟩ := locks.of_otherHead hs other
    cases closes with
    | notCommitted _ failure answer =>
      refine ⟨by simp [Statement.writes], ⟨.error failure, by simp⟩, fun ended hcommit => ?_⟩
      simp at hcommit
    | committed _ ended =>
      exact ⟨by simp [Statement.writes], ⟨.ok ended, by simp⟩, fun _ _ => refusal⟩
  noRow s hs lacks := by
    obtain ⟨begun, work, closing, done, rfl, locks, closes, hs⟩ :=
      framed.work_of_mem hs (Statement.delimits_of_missing lacks.1)
    obtain ⟨rfl, before, rfl, hbefore⟩ := locks.of_lacksRow hs lacks
    cases closes with
    | rolledBack _ answer =>
      refine ⟨rfl, ⟨.begin, .ok begun⟩ :: before, answer, by simp, ?_⟩
      exact List.forall_mem_cons.mpr ⟨fun lacks => lacks.1 rfl, hbefore⟩
  told record told := by
    cases framed with
    | notBegun => cases (Call.told?_error _).symm.trans told
    | begun begun locks closes =>
      cases closes with
      | rolledBack | notCommitted => cases (Call.told?_error _).symm.trans told
      | committed value ended =>
        cases locks with
        | refused _ _ refusal => cases (Call.told?_of_refusal refusal).symm.trans told
        | @changed row rows head writes performs value record' returned told' =>
          obtain ⟨statements, succeeded⟩ := performs.all_of_none
          obtain rfl := Option.some.inj (told'.symm.trans told)
          exact ⟨begun, row, rows, writes, ended, rfl, head, statements, succeeded, returned⟩

theorem WritesLocked.unconnected (error : Failure) :
    WritesLocked now c expected [] (.error error) where
  locked := List.forall_mem_nil _
  carries := List.forall_mem_nil _
  otherHead _ _ hs := by cases hs
  noRow := List.forall_mem_nil _
  told _ told := by cases (Call.told?_error error).symm.trans told

theorem WritesLocked.of_disciplined {context : String} {asked : List Asked}
    {result : Except Failure c.Reply}
    (disciplined : Disciplined (Framed context (Locks now c expected)) asked result) :
    WritesLocked now c expected (sentIn asked) result := by
  cases disciplined with
  | unconnected failure reported => exact .unconnected _
  | connected framed =>
    rw [sentIn_connected]
    exact .of_framed framed

end

namespace Pooled

/-- **Writes behind a row lock.** However the pool and its connection behave, a call that adds a
version or a snapshot writes only after it locked the client's row and saw the head that it names
there. It writes what it was given, and answers with a record only if all of it was committed. -/
theorem writes_behind_lock (server : Server) (before : List Asked) (now : Number) {c : Call}
    {expected : String} (names : c.expected? = some expected) :
    WritesLocked now c expected (sentIn (converse server before (call now c).run).1)
      (converse server before (call now c).run).2 :=
  .of_disciplined (locks_call now names (converse_course server before _))

/-- A server whose lock shows a client without versions, and whose update finds no row. -/
def forgetful (client : String) : Server
  | _, .run (.lockClient _) => .ok [⟨client, nilId, none, 0, none⟩]
  | _, .run _ => .ok []
  | _, .connect => .ok ()
  | _, .release _ => ()
  | _, .endPool => ()

theorem writes_behind_lock_forgotten :
    let c : Call := .addVersion "ada" nilId "first" [1, 2]
    let (asked, result) := converse (forgetful "ada") [] (call 0 c).run
    c.expected? = some nilId ∧ WritesLocked 0 c nilId (sentIn asked) result ∧
      (sentIn asked).map (·.statement) = [.begin, .lockClient "ada",
        .insertVersion "ada" "first" nilId [1, 2], .advanceHead "first" "ada", .rollback] ∧
      result = .error (.noSuchClient "ada") :=
  ⟨rfl, writes_behind_lock (forgetful "ada") [] 0 rfl, rfl, rfl⟩

end Pooled

end TaskSync.Store
