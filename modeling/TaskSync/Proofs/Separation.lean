import TaskSync.Proofs.Bookkeeping
import TaskSync.Proofs.EmbeddedCalls

/-!
# Clients apart

A call reads and writes nothing but the part of a store that is its client's,
whatever is stored and whichever events fail. So in every run a client is told
what it would be told if it were the only one.
-/

namespace TaskSync.Store

/-- A step that reads and writes one client's part of a state, and nothing else of it. -/
structure Within {State Result : Type} (only : String → State → State) (client : String)
    (step : State → Result × State) : Prop where
  own : ∀ state, step (only client state) = ((step state).1, only client (step state).2)
  others : ∀ state other, other ≠ client → only other (step state).2 = only other state

theorem Within.alike {State Result : Type} {only : String → State → State} {client : String}
    {step : State → Result × State} (within : Within only client step) {s s' : State}
    (same : only client s = only client s') :
    (step s).1 = (step s').1 ∧ only client (step s).2 = only client (step s').2 := by
  have h : ((step s).1, only client (step s).2) = ((step s').1, only client (step s').2) := by
    rw [← within.own, ← within.own, same]
  exact Prod.mk.inj h

/-- What one client's step does is the same before and after another's. -/
theorem Within.undisturbed {State Result Result' : Type} {only : String → State → State}
    {client client' : String} {step : State → Result × State} {step' : State → Result' × State}
    (within : Within only client step) (within' : Within only client' step')
    (hne : client' ≠ client) (s : State) :
    (step' (step s).2).1 = (step' s).1 ∧
      only client' (step' (step s).2).2 = only client' (step' s).2 :=
  within'.alike (within.others s client' hne)

theorem Within.commute {State Result Result' : Type} {only : String → State → State}
    {client client' : String} {step : State → Result × State} {step' : State → Result' × State}
    (within : Within only client step) (within' : Within only client' step')
    (hne : client' ≠ client) (s : State) (other : String) :
    only other (step' (step s).2).2 = only other (step (step' s).2).2 := by
  by_cases ho : other = client
  · subst ho
    rw [within'.others _ other (Ne.symm hne), (within'.undisturbed within (Ne.symm hne) s).2]
  · by_cases ho' : other = client'
    · subst ho'
      rw [(within.undisturbed within' hne s).2, within.others _ other hne]
    · rw [within'.others _ other ho', within.others s other ho, within.others _ other ho,
        within'.others s other ho']

/-! ## In memory -/

namespace Table

variable {α : Type}

def only (key : String) (t : Table α) : Table α := ⟨t.entries.filter (·.1 = key)⟩

theorem get?_only (t : Table α) (key : String) : (t.only key).get? key = t.get? key := by
  obtain ⟨entries⟩ := t
  simp only [get?, only]
  induction entries with
  | nil => rfl
  | cons entry rest ih =>
    by_cases hk : entry.1 = key
    · rw [List.filter_cons_of_pos (by simpa using hk), getEntry?, getEntry?, if_pos hk, if_pos hk]
    · rw [List.filter_cons_of_neg (by simpa using hk), ih, getEntry?, if_neg hk]

theorem set_only (t : Table α) (key : String) (value : α) :
    (t.only key).set key value = (t.set key value).only key := by
  obtain ⟨entries⟩ := t
  simp only [set, only, mk.injEq]
  induction entries with
  | nil => simp [setEntry]
  | cons entry rest ih =>
    by_cases hk : entry.1 = key
    · simp [setEntry, hk]
    · simp [setEntry, hk, ih]

theorem only_set {key other : String} (hne : other ≠ key) (t : Table α) (value : α) :
    (t.set key value).only other = t.only other := by
  obtain ⟨entries⟩ := t
  simp only [set, only, mk.injEq]
  induction entries with
  | nil => simp [setEntry, Ne.symm hne]
  | cons entry rest ih =>
    by_cases hk : entry.1 = key
    · simp [setEntry, hk, Ne.symm hne]
    · simp only [setEntry, hk, if_false, List.filter_cons, ih]

end Table

namespace Memory

def only (client : String) (m : Memory) : Memory := ⟨m.chains.only client⟩

theorem get?_only (m : Memory) (client : String) : (m.only client).get? client = m.get? client :=
  m.chains.get?_only client

theorem put_only (m : Memory) (client : String) (chain : Chain) :
    (m.only client).put client chain = (m.put client chain).only client :=
  congrArg mk (m.chains.set_only client chain)

theorem only_put {client other : String} (hne : other ≠ client) (m : Memory) (chain : Chain) :
    (m.put client chain).only other = m.only other :=
  congrArg mk (m.chains.only_set hne chain)

theorem call_within (now : Number) (c : Call) :
    Within only c.client fun m => m.call now c where
  own := by
    intro m
    cases c with
    | getClient client => simp only [call, Call.client, get?_only]
    | getVersionByParent client parent => simp only [call, Call.client, get?_only]
    | getSnapshot client => simp only [call, Call.client, get?_only]
    | createClient client =>
      simp only [call, createClient, Call.client, get?_only]
      split
      · rfl
      · rw [put_only]
    | addVersion client parent version segment =>
      simp only [call, addVersion, Call.client, get?_only]
      split
      · rfl
      · split
        · rw [put_only]
        · rfl
    | addSnapshot client version data prune =>
      simp only [call, addSnapshot, Call.client, get?_only]
      split
      · rfl
      · split
        · rw [put_only]
        · rfl
  others := by
    intro m other hne
    cases c with
    | getClient client => rfl
    | getVersionByParent client parent => rfl
    | getSnapshot client => rfl
    | createClient client =>
      simp only [call, createClient]
      split
      · rfl
      · exact only_put hne m _
    | addVersion client parent version segment =>
      simp only [call, addVersion]
      split
      · rfl
      · split
        · exact only_put hne m _
        · rfl
    | addSnapshot client version data prune =>
      simp only [call, addSnapshot]
      split
      · rfl
      · split
        · exact only_put hne m _
        · rfl

end Memory

/-! ## In the database -/

namespace Database

def only (client : String) (db : Database) : Database :=
  ⟨db.clients.filter (·.record.id = client), db.versions.filter (·.client = client)⟩

theorem find?_client_only (db : Database) (client : String) :
    (db.only client).clients.find? (·.record.id = client) =
      db.clients.find? (·.record.id = client) := by
  simp [only, List.find?_filter]

theorem find?_version_only (db : Database) (client : String) (p : Version → Bool) :
    (db.only client).versions.find? (fun row => row.client = client && p row.version) =
      db.versions.find? fun row => row.client = client && p row.version := by
  simp [only, List.find?_filter]

theorem any_version_only (db : Database) (client : String) (p : Version → Bool) :
    ((db.only client).versions.any fun row => row.client = client && p row.version) =
      db.versions.any fun row => row.client = client && p row.version := by
  simp [only, List.any_filter]

end Database

section ChangeRow

variable {change : ClientRow → ClientRow} (hid : ∀ row, (change row).record.id = row.record.id)
include hid

theorem filter_changeRow (client other : String) (rows : List ClientRow) :
    (changeRow client change rows).filter (·.record.id = other) =
      changeRow client change (rows.filter (·.record.id = other)) := by
  unfold changeRow
  rw [List.filter_map]
  congr 1
  apply List.filter_congr
  intro row _
  by_cases hc : row.record.id = client <;> simp [hc, hid]

theorem filter_changeRow_ne {client other : String} (hne : other ≠ client)
    (rows : List ClientRow) :
    (changeRow client change rows).filter (·.record.id = other) =
      rows.filter (·.record.id = other) := by
  rw [filter_changeRow hid]
  unfold changeRow
  conv_rhs => rw [← List.map_id (rows.filter (·.record.id = other))]
  apply List.map_congr_left
  intro row hrow
  have hother : row.record.id = other := by simpa using (List.mem_filter.mp hrow).2
  rw [if_neg (by rwa [hother]), id]

end ChangeRow

namespace Work

variable {α β : Type} {client : String}

/-- Work on nothing but the rows of one client, whichever events fail. -/
def WithinRows (client : String) (work : Work α) : Prop :=
  ∀ faults, Within Database.only client (work faults)

theorem WithinRows.pure (value : α) : WithinRows client (Pure.pure value) :=
  fun _ => ⟨fun _ => rfl, fun _ _ _ => rfl⟩

theorem WithinRows.throw (failure : Failure) :
    WithinRows client (MonadExcept.throw failure : Work α) :=
  fun _ => ⟨fun _ => rfl, fun _ _ _ => rfl⟩

theorem WithinRows.bind {work : Work α} {next : α → Work β} (first : WithinRows client work)
    (rest : ∀ value, WithinRows client (next value)) : WithinRows client (work >>= next) := by
  intro faults
  constructor
  · intro db
    rw [run_bind, run_bind, (first faults).own]
    rcases work faults db with ⟨_ | value, after⟩
    · rfl
    · exact (rest value faults).own after
  · intro db other hne
    rw [run_bind]
    have unchanged := (first faults).others db other hne
    rcases hrun : work faults db with ⟨_ | value, after⟩ <;> rw [hrun] at unchanged
    · exact unchanged
    · exact ((rest value faults).others after other hne).trans unchanged

theorem WithinRows.client? : WithinRows client (client? client) := by
  refine fun faults => ⟨fun db => ?_, fun _ _ _ => rfl⟩
  rw [run_client?, run_client?, db.find?_client_only]

theorem WithinRows.child? (parent : String) : WithinRows client (child? client parent) := by
  refine fun faults => ⟨fun db => ?_, fun _ _ _ => rfl⟩
  rw [run_child?, run_child?, db.find?_version_only client fun v => v.parent = parent]

theorem WithinRows.insertClient {row : ClientRow} (hrow : row.record.id = client) :
    WithinRows client (insertClient row) := by
  subst hrow
  refine fun faults => ⟨fun db => ?_, fun db other hne => ?_⟩
  · simp only [run_insertClient, db.find?_client_only]
    split
    · rfl
    · split
      · rfl
      · simp [Database.only, List.filter_append]
  · rw [run_insertClient]
    split
    · rfl
    · split
      · rfl
      · simp [Database.only, List.filter_append, Ne.symm hne]

theorem run_updateClient_unknown (faults : List Fault) {db : Database}
    (change : ClientRow → ClientRow) (unknown : db.clients.find? (·.record.id = client) = none) :
    updateClient client change faults db = (.ok (), db) := by
  unfold updateClient
  simp only [run_bind, run_client?, unknown, Option.isSome_none, Bool.false_eq_true, if_false,
    run_pure]

theorem WithinRows.updateClient {change : ClientRow → ClientRow}
    (hid : ∀ row, (change row).record.id = row.record.id) :
    WithinRows client (updateClient client change) := by
  refine fun faults => ⟨fun db => ?_, fun db other hne => ?_⟩
  · have lookup := db.find?_client_only client
    cases found : db.clients.find? (·.record.id = client) with
    | none =>
      rw [run_updateClient_unknown faults change found,
        run_updateClient_unknown faults change (lookup.trans found)]
    | some row =>
      rw [run_updateClient faults found db.versions change,
        run_updateClient faults (lookup.trans found) (db.only client).versions change]
      split
      · rfl
      · simp [Database.only, filter_changeRow hid]
  · cases found : db.clients.find? (·.record.id = client) with
    | none => rw [run_updateClient_unknown faults change found]
    | some row =>
      rw [run_updateClient faults found db.versions change]
      split
      · rfl
      · simp [Database.only, filter_changeRow_ne hid hne]

theorem WithinRows.insertVersion (version : Version) :
    WithinRows client (insertVersion ⟨client, version⟩) := by
  refine fun faults => ⟨fun db => ?_, fun db other hne => ?_⟩
  · have keys : repeatedKey? (db.only client).versions ⟨client, version⟩ =
        repeatedKey? db.versions ⟨client, version⟩ := by
      simp only [repeatedKey?, db.find?_version_only client fun v => v.parent = version.parent,
        db.any_version_only client fun v => v.id = version.id]
    simp only [run_insertVersion, keys]
    split
    · rfl
    · split
      · rfl
      · simp [Database.only, List.filter_append]
  · rw [run_insertVersion]
    split
    · rfl
    · split
      · rfl
      · simp [Database.only, List.filter_append, Ne.symm hne]

theorem WithinRows.deleteVersions (p : Version → Bool) :
    WithinRows client (deleteVersions fun row => row.client = client && p row.version) := by
  refine fun faults => ⟨fun db => ?_, fun db other hne => ?_⟩
  · simp only [run_deleteVersions, db.any_version_only client p]
    split
    · rfl
    · simp [Database.only, List.filter_filter, Bool.and_comm]
  · rw [run_deleteVersions]
    split
    · rfl
    · simp only [Database.only, List.filter_filter, Database.mk.injEq, true_and]
      apply List.filter_congr
      intro row _
      by_cases ho : row.client = other <;> simp [ho, hne]

end Work

namespace Embedded

open Work

variable (client : String)

theorem requireClient_within : WithinRows client (requireClient client) := by
  refine .bind .client? fun found => ?_
  cases found with
  | none => exact .throw _
  | some row => exact .pure row

theorem createClient_within : WithinRows client (createClient client) := by
  refine .bind .client? fun found => ?_
  cases found with
  | none => exact .bind (.insertClient rfl) fun _ => .pure _
  | some row => exact .bind (.throw _) fun _ => .bind (.insertClient rfl) fun _ => .pure _

theorem addVersion_within (parent version : String) (segment : Bytes) :
    WithinRows client (addVersion client parent version segment) := by
  refine .bind (requireClient_within client) fun row => ?_
  split
  · refine .bind (.insertVersion _) fun _ => .bind (.updateClient fun _ => rfl) fun _ => ?_
    exact .bind (requireClient_within client) fun _ => .pure _
  · exact .pure _

theorem addSnapshot_within (now : Number) (version : String) (data : Bytes) (prune : Bool) :
    WithinRows client (addSnapshot now client version data prune) := by
  refine .bind (requireClient_within client) fun row => ?_
  split
  · refine .bind (.updateClient fun _ => rfl) fun _ => ?_
    have answer : WithinRows client
        (return Stored.accepted (← requireClient client).record : Work Stored) :=
      .bind (requireClient_within client) fun _ => .pure _
    cases prune with
    | false => exact answer
    | true => exact .bind (.deleteVersions fun v => v.id ≠ version) fun _ => answer
  · exact .pure _

theorem call_within (now : Number) (c : Call) (faults : List Fault) :
    Within Database.only c.client (call now c faults) := by
  have performed : WithinRows c.client (perform now c) := by
    cases c with
    | getClient client => exact .bind .client? fun _ => .pure _
    | createClient client => exact createClient_within client
    | getVersionByParent client parent => exact .bind (.child? parent) fun _ => .pure _
    | addVersion client parent version segment =>
      exact addVersion_within client parent version segment
    | addSnapshot client version data prune =>
      exact addSnapshot_within client now version data prune
    | getSnapshot client => exact .bind .client? fun _ => .pure _
  constructor
  · intro db
    rw [run_call, run_call, (performed faults).own]
    rcases perform now c faults db with ⟨_ | _, _⟩ <;> rfl
  · intro db other hne
    have unchanged := (performed faults).others db other hne
    rw [run_call]
    cases hrun : perform now c faults db with
    | mk result after =>
      rw [hrun] at unchanged
      cases result with
      | ok reply => exact unchanged
      | error failure => rfl

end Embedded

end TaskSync.Store

namespace TaskSync.Scenario

open Store

/-! ## Runs -/

namespace Backing

def only (client : String) : Backing → Backing
  | memory state => memory (state.only client)
  | embedded host => embedded { host with database := host.database.only client }
  | unreachable failure => unreachable failure

theorem row?_only (b : Backing) (client : String) :
    (b.only client).row? client = b.row? client := by
  cases b with
  | memory state => exact congrArg (Option.map _) (state.get?_only client)
  | embedded host => exact host.database.find?_client_only client
  | unreachable failure => rfl

theorem call_within (connection : Nat) (time : Number) (c : Call) :
    Within only c.client (Backing.call connection time c) where
  own := by
    intro b
    cases b with
    | memory state =>
      have own := (Memory.call_within time c).own state
      simp only [only, call, own]
    | embedded host =>
      have own := (Embedded.call_within time c host.faults).own host.database
      simp only [only, call, Hosted.run, own]
      split <;> rfl
    | unreachable failure => rfl
  others := by
    intro b other hne
    cases b with
    | memory state =>
      have others := (Memory.call_within time c).others state other hne
      simp only [only, call, others]
    | embedded host =>
      have others := (Embedded.call_within time c host.faults).others host.database other hne
      simp only [call, Hosted.run]
      split
      · rfl
      · exact congrArg (fun database => embedded { host with database }) others
    | unreachable failure => rfl

/-- Stores that have the same for every client. In which order they keep the clients is free. -/
def Alike (b b' : Backing) : Prop := ∀ client, b.only client = b'.only client

theorem Alike.call {b b' : Backing} (alike : b.Alike b') (connection : Nat) (time : Number)
    (c : Call) :
    (b.call connection time c).1 = (b'.call connection time c).1 ∧
      (b.call connection time c).2.Alike (b'.call connection time c).2 := by
  have within := call_within connection time c
  refine ⟨(within.alike (alike c.client)).1, fun client => ?_⟩
  by_cases hc : client = c.client
  · subst hc
    exact (within.alike (alike c.client)).2
  · rw [within.others b client hc, within.others b' client hc, alike client]

end Backing

namespace Recorded

def about (client : String) (calls : List (Number × Call)) : List (Number × Call) :=
  calls.filter (·.2.client = client)

theorem run_about (start : Backing) (calls : List (Number × Call)) (client : String) :
    (run start (about client calls)).history =
        (run start calls).history.filter (·.call.client = client) ∧
      (run start (about client calls)).store.only client =
        (run start calls).store.only client := by
  induction calls using List.reverseRecOn with
  | nil => exact ⟨rfl, rfl⟩
  | append_singleton calls made ih =>
    obtain ⟨time, c⟩ := made
    obtain ⟨history, part⟩ := ih
    have within := Backing.call_within 0 time c
    unfold about at history part ⊢
    rw [List.filter_append, run_snoc]
    by_cases hc : c.client = client
    · subst hc
      obtain ⟨reply, after⟩ := within.alike part
      rw [List.filter_cons_of_pos (by simp), List.filter_nil, run_snoc]
      exact ⟨by simp [call, history, reply], after⟩
    · rw [List.filter_cons_of_neg (by simpa using hc), List.filter_nil, List.append_nil]
      refine ⟨by simp [call, history, hc], ?_⟩
      exact part.trans (within.others _ client (Ne.symm hc)).symm

theorem foldl_call (calls : List (Number × Call)) (r : Recorded) :
    calls.foldl (fun r made => r.call made.1 made.2) r =
      ⟨(run r.store calls).store, r.history ++ (run r.store calls).history⟩ := by
  induction calls using List.reverseRecOn with
  | nil => simp [run]
  | append_singleton calls made ih =>
    rw [List.foldl_append, List.foldl_cons, List.foldl_nil, ih, run_snoc]
    simp [call]

theorem run_append (start : Backing) (calls later : List (Number × Call)) :
    run start (calls ++ later) =
      ⟨(run (run start calls).store later).store,
        (run start calls).history ++ (run (run start calls).store later).history⟩ := by
  rw [← foldl_call]
  exact List.foldl_append

end Recorded

theorem Backing.Alike.run {b b' : Backing} (alike : b.Alike b') (calls : List (Number × Call)) :
    (Recorded.run b calls).history = (Recorded.run b' calls).history ∧
      (Recorded.run b calls).store.Alike (Recorded.run b' calls).store := by
  induction calls using List.reverseRecOn with
  | nil => exact ⟨rfl, alike⟩
  | append_singleton calls made ih =>
    obtain ⟨history, alike⟩ := ih
    obtain ⟨reply, after⟩ := alike.call 0 made.1 made.2
    rw [Recorded.run_snoc, Recorded.run_snoc]
    exact ⟨by simp [Recorded.call, history, reply], after⟩

theorem Recorded.run_swap (s : Backing) {a b : Number × Call} (hne : a.2.client ≠ b.2.client) :
    ∃ e e', (run s [a, b]).history = [e, e'] ∧ (run s [b, a]).history = [e', e] ∧
      (run s [a, b]).store.Alike (run s [b, a]).store := by
  have first := Backing.call_within 0 a.1 a.2
  have second := Backing.call_within 0 b.1 b.2
  have told := (first.undisturbed second (Ne.symm hne) s).1
  have told' := (second.undisturbed first hne s).1
  refine ⟨⟨a.1, a.2, (s.call 0 a.1 a.2).1⟩, ⟨b.1, b.2, (s.call 0 b.1 b.2).1⟩, ?_, ?_, ?_⟩
  · simp [run, call, told]
  · simp [run, call, told']
  · exact fun client => first.commute second (Ne.symm hne) s client

theorem Recorded.swapped (start : Backing) (earlier later : List (Number × Call))
    {a b : Number × Call} (hne : a.2.client ≠ b.2.client) :
    ∃ before e e' after, before.length = earlier.length ∧
      (run start (earlier ++ a :: b :: later)).history = before ++ e :: e' :: after ∧
      (run start (earlier ++ b :: a :: later)).history = before ++ e' :: e :: after ∧
      (run start (earlier ++ a :: b :: later)).store.Alike
        (run start (earlier ++ b :: a :: later)).store := by
  obtain ⟨e, e', forth, back, alike⟩ := run_swap (run start earlier).store hne
  obtain ⟨same, alike⟩ := alike.run later
  have split (x y : Number × Call) :
      earlier ++ x :: y :: later = earlier ++ ([x, y] ++ later) := rfl
  refine ⟨(run start earlier).history, e, e',
    (run (run (run start earlier).store [a, b]).store later).history, ?_, ?_, ?_, ?_⟩
  · rw [← List.length_map, history_calls]
  · rw [split, run_append, run_append, forth]
    rfl
  · rw [split, run_append, run_append, back, same]
    rfl
  · rw [split, split, run_append, run_append start, run_append, run_append _ [b, a]]
    exact alike

/-! ## Clients apart -/

/-- What the clients of a run have to do with each other, which is nothing. -/
structure ClientsApart (start : Backing) (calls : List (Number × Call)) : Prop where
  /-- Without the calls about others, the calls about a client are answered the same. -/
  answers : ∀ client, (Recorded.run start (Recorded.about client calls)).history =
    (Recorded.run start calls).history.filter (·.call.client = client)
  /-- And so is every call about the client afterwards. -/
  afterwards : ∀ client connection time c, c.client = client →
    ((Recorded.run start (Recorded.about client calls)).store.call connection time c).1 =
      ((Recorded.run start calls).store.call connection time c).1
  /-- Two calls about different clients can change places, and all calls are answered the same. -/
  commute : ∀ earlier a b later, calls = earlier ++ a :: b :: later → a.2.client ≠ b.2.client →
    ∃ before e e' after, before.length = earlier.length ∧
      (Recorded.run start calls).history = before ++ e :: e' :: after ∧
      (Recorded.run start (earlier ++ b :: a :: later)).history = before ++ e' :: e :: after
  /-- Nor does anything tell afterwards which of the two came first. -/
  indistinct : ∀ earlier a b later, calls = earlier ++ a :: b :: later →
    a.2.client ≠ b.2.client → ∀ connection time c,
      ((Recorded.run start calls).store.call connection time c).1 =
        ((Recorded.run start (earlier ++ b :: a :: later)).store.call connection time c).1

/-- **Clients apart.** From any store and through any calls, a client is told what its own calls
alone would have it told, and it does not matter in which order different clients make theirs. -/
theorem clients_apart (start : Backing) (calls : List (Number × Call)) :
    ClientsApart start calls := by
  constructor
  case answers => exact fun client => (Recorded.run_about start calls client).1
  case afterwards =>
    rintro client connection time c rfl
    have within := Backing.call_within connection time c
    exact (within.alike (Recorded.run_about start calls c.client).2).1
  case commute =>
    rintro earlier a b later rfl hne
    obtain ⟨before, e, e', after, length, forth, back, -⟩ :=
      Recorded.swapped start earlier later hne
    exact ⟨before, e, e', after, length, forth, back⟩
  case indistinct =>
    rintro earlier a b later rfl hne connection time c
    obtain ⟨_, _, _, _, _, _, _, alike⟩ := Recorded.swapped start earlier later hne
    exact (alike.call connection time c).1

end TaskSync.Scenario
