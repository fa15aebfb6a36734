import TaskSync.Store.Embedded

/-!
# The calls of the embedded database

What every statement does to the relations, whichever events are made to fail,
and what every call answers and leaves while none is: one lemma for each way that
a call can go. A row that repeats a key is refused, and nothing is written then.
-/

namespace TaskSync.Store

def changeRow (client : String) (change : ClientRow → ClientRow) (rows : List ClientRow) :
    List ClientRow :=
  rows.map fun row => if row.record.id = client then change row else row

def versionsOf (client : String) (rows : List VersionRow) : List Version :=
  (rows.filter (·.client = client)).map (·.version)

/-- The key that a row would repeat. Of the two that it can repeat, the parent's comes first. -/
def repeatedKey? (rows : List VersionRow) (row : VersionRow) : Option String :=
  if (rows.find? fun old => old.client = row.client && old.version.parent = row.version.parent).isSome
  then some "versions.client_id, versions.parent_version_id"
  else if rows.any fun old => old.client = row.client && old.version.id = row.version.id
  then some "versions.client_id, versions.version_id"
  else none

/-! ## Rows of one client -/

theorem find?_changeRow (rows : List ClientRow) (client : String)
    {change : ClientRow → ClientRow} (hid : ∀ row, (change row).record.id = row.record.id)
    (other : String) :
    (changeRow client change rows).find? (·.record.id = other) =
      if other = client then (rows.find? (·.record.id = client)).map change
      else rows.find? (·.record.id = other) := by
  unfold changeRow
  induction rows with
  | nil => rw [List.map_nil, List.find?_nil, List.find?_nil, Option.map_none, ite_self]
  | cons row rows ih =>
    rw [List.map_cons, List.find?_cons, List.find?_cons, List.find?_cons, ih]
    by_cases hc : row.record.id = client
    · by_cases ho : other = client
      · simp only [hc, ho, hid, decide_true, if_true, Option.map_some]
      · simp only [hc, ho, hid, Ne.symm ho, decide_false, if_true, if_false]
    · by_cases ho : other = client
      · simp only [hc, ho, decide_false, if_true, if_false]
      · simp only [hc, ho, if_false]

theorem find?_changeRow_self {rows : List ClientRow} {client : String} {row : ClientRow}
    (found : rows.find? (·.record.id = client) = some row) (change : ClientRow → ClientRow)
    (hid : ∀ row, (change row).record.id = row.record.id) :
    (changeRow client change rows).find? (·.record.id = client) = some (change row) := by
  rw [find?_changeRow rows client hid, if_pos rfl, found, Option.map_some]

theorem versionsOf_append (client : String) (rows added : List VersionRow) :
    versionsOf client (rows ++ added) = versionsOf client rows ++ versionsOf client added := by
  unfold versionsOf
  rw [List.filter_append, List.map_append]

theorem find?_versionsOf (rows : List VersionRow) (client : String) (p : Version → Bool) :
    (rows.find? fun row => row.client = client && p row.version).map (·.version) =
      (versionsOf client rows).find? p := by
  unfold versionsOf
  induction rows with
  | nil => rfl
  | cons row rows ih =>
    by_cases hc : row.client = client <;> by_cases hp : p row.version <;> simp_all

theorem any_versionsOf (rows : List VersionRow) (client : String) (p : Version → Bool) :
    (rows.any fun row => row.client = client && p row.version) =
      (versionsOf client rows).any p := by
  simp [versionsOf, List.any_map, List.any_filter, Function.comp_def]

theorem versionsOf_delete (rows : List VersionRow) (client id other : String) :
    versionsOf other (rows.filter fun row => !(row.client = client && row.version.id ≠ id)) =
      if other = client then (versionsOf client rows).filter (·.id = id)
      else versionsOf other rows := by
  unfold versionsOf
  rw [List.filter_filter, List.filter_map, List.filter_filter]
  split
  · next ho =>
    subst ho
    congr 1
    apply List.filter_congr
    intro row _
    by_cases hc : row.client = other <;> simp [hc]
  · next ho =>
    congr 1
    apply List.filter_congr
    intro row _
    by_cases hc : row.client = other <;> simp [hc, ho]

theorem repeatedKey?_eq_none_iff {rows : List VersionRow} {client : String} {v : Version} :
    repeatedKey? rows ⟨client, v⟩ = none ↔
      ∀ w ∈ versionsOf client rows, w.parent ≠ v.parent ∧ w.id ≠ v.id := by
  have hparent : (rows.find? fun old => old.client = client && old.version.parent = v.parent).isSome
      = (versionsOf client rows).any fun w => w.parent = v.parent := by
    rw [← any_versionsOf rows client fun w => w.parent = v.parent, List.isSome_find?]
  have hid : (rows.any fun old => old.client = client && old.version.id = v.id) =
      (versionsOf client rows).any fun w => w.id = v.id :=
    any_versionsOf rows client fun w => w.id = v.id
  unfold repeatedKey?
  rw [hparent, hid]
  by_cases hp : (versionsOf client rows).any fun w => w.parent = v.parent
  · simp only [hp, if_true, reduceCtorEq, false_iff]
    intro free
    obtain ⟨w, hw, hwp⟩ := List.any_eq_true.mp hp
    exact (free w hw).1 (by simpa using hwp)
  · by_cases hi : (versionsOf client rows).any fun w => w.id = v.id
    · simp only [hp, hi, if_true, if_false, reduceCtorEq, false_iff]
      intro free
      obtain ⟨w, hw, hwi⟩ := List.any_eq_true.mp hi
      exact (free w hw).2 (by simpa using hwi)
    · simp only [hp, hi, Bool.false_eq_true, if_false, true_iff]
      intro w hw
      simp only [List.any_eq_true, not_exists, not_and, decide_eq_true_eq] at hp hi
      exact ⟨hp w hw, hi w hw⟩

/-! ## Statement by statement -/

namespace Work

/-- What the driver raises at an event that is made to fail. -/
def injected : Failure := driverFailure "injected failure"

variable {α β : Type} (faults : List Fault) (db : Database)

theorem run_bind (w : Work α) (f : α → Work β) :
    (w >>= f) faults db = match w faults db with
      | (.ok value, after) => f value faults after
      | (.error failure, after) => (.error failure, after) := by
  have h : (w >>= f) faults db =
      ExceptT.bindCont (m := StateM Database) (fun value => f value faults)
        (w faults db).1 (w faults db).2 := rfl
  rw [h]
  rcases w faults db with ⟨_ | _, _⟩ <;> rfl

@[simp] theorem run_pure (value : α) : (pure value : Work α) faults db = (.ok value, db) := rfl

@[simp] theorem run_throw (failure : Failure) :
    (throw failure : Work α) faults db = (.error failure, db) := rfl

@[simp] theorem run_read : (read : Work (List Fault)) faults db = (.ok faults, db) := rfl

@[simp] theorem run_get : (get : Work Database) faults db = (.ok db, db) := rfl

@[simp] theorem run_client? (client : String) :
    client? client faults db = (.ok (db.clients.find? (·.record.id = client)), db) := rfl

@[simp] theorem run_child? (client parent : String) :
    child? client parent faults db =
      (.ok (db.versions.find? fun row => row.client = client && row.version.parent = parent), db) :=
  rfl

theorem run_meet (relation : Relation) (event : Event) :
    meet relation event faults db =
      if ⟨relation, event⟩ ∈ faults then (.error injected, db) else (.ok (), db) := by
  have h : meet relation event faults db =
      if faults.contains ⟨relation, event⟩ then (.error injected, db) else (.ok (), db) := by
    cases hf : faults.contains ⟨relation, event⟩ <;>
      simp only [meet, run_bind, run_read, hf, if_true, Bool.false_eq_true, if_false, run_throw,
        run_pure, injected]
  rw [h]
  simp only [List.contains_iff_mem]

theorem run_insertClient (row : ClientRow) :
    insertClient row faults db =
      if ⟨.clients, .insert⟩ ∈ faults then (.error injected, db)
      else if (db.clients.find? (·.record.id = row.record.id)).isSome then
        (.error (violates "clients.client_id"), db)
      else (.ok (), { db with clients := db.clients ++ [row] }) := by
  unfold insertClient
  simp only [run_bind, run_meet, run_client?]
  by_cases fault : (⟨.clients, .insert⟩ : Fault) ∈ faults
  · simp only [fault, if_true]
  · simp only [fault, if_false]
    split <;> rfl

theorem run_updateClient {clients : List ClientRow} {client : String} {row : ClientRow}
    (found : clients.find? (·.record.id = client) = some row) (versions : List VersionRow)
    (change : ClientRow → ClientRow) :
    updateClient client change faults ⟨clients, versions⟩ =
      if ⟨.clients, .update⟩ ∈ faults then (.error injected, ⟨clients, versions⟩)
      else (.ok (), ⟨changeRow client change clients, versions⟩) := by
  unfold updateClient
  simp only [run_bind, run_client?, found, Option.isSome_some, if_true, run_meet]
  by_cases fault : (⟨.clients, .update⟩ : Fault) ∈ faults
  · simp only [fault, if_true]
  · simp only [fault, if_false]
    rfl

theorem run_insertVersion (row : VersionRow) :
    insertVersion row faults db =
      if ⟨.versions, .insert⟩ ∈ faults then (.error injected, db)
      else match repeatedKey? db.versions row with
        | some columns => (.error (violates columns), db)
        | none => (.ok (), { db with versions := db.versions ++ [row] }) := by
  unfold insertVersion repeatedKey?
  simp only [run_bind, run_meet]
  by_cases fault : (⟨.versions, .insert⟩ : Fault) ∈ faults
  · simp only [fault, if_true]
  · simp only [fault, if_false, run_child?]
    split
    · rfl
    · simp only [run_bind, run_get]
      split <;> rfl

theorem run_deleteVersions (chosen : VersionRow → Bool) :
    deleteVersions chosen faults db =
      if db.versions.any chosen ∧ ⟨.versions, .delete⟩ ∈ faults then (.error injected, db)
      else (.ok (), { db with versions := db.versions.filter fun row => !chosen row }) := by
  unfold deleteVersions
  simp only [run_bind, run_get]
  cases some_chosen : db.versions.any chosen with
  | false =>
    have same : db.versions.filter (fun row => !chosen row) = db.versions := by
      rw [List.filter_eq_self]
      simpa using some_chosen
    simp only [Bool.false_eq_true, if_false, false_and, same]
    rfl
  | true =>
    simp only [if_true, true_and, run_bind, run_meet]
    by_cases fault : (⟨.versions, .delete⟩ : Fault) ∈ faults
    · simp only [fault, if_true]
    · simp only [fault, if_false]
      rfl

end Work

/-! ## The ways a call can go -/

namespace Embedded

theorem run_call (now : Number) (c : Call) (faults : List Fault) (db : Database) :
    call now c faults db = match perform now c faults db with
      | (.ok reply, after) => (.ok reply, after)
      | (.error failure, _) => (.error (failure.wrap (context c)), db) := by
  have h : call now c faults db = match (perform now c).atomically faults db with
      | (.ok reply, after) => (.ok reply, after)
      | (.error failure, after) => (.error (failure.wrap (context c)), after) := by
    unfold call
    simp only [tryCatchThe, MonadExceptOf.tryCatch, ExceptT.tryCatch, ExceptT.mk, bind,
      StateT.bind]
    rcases (perform now c).atomically faults db with ⟨_ | _, _⟩ <;> rfl
  rw [h]
  unfold Work.atomically
  rcases perform now c faults db with ⟨_ | _, _⟩ <;> rfl

theorem run_requireClient (client : String) (faults : List Fault) (db : Database) :
    requireClient client faults db = match db.clients.find? (·.record.id = client) with
      | some row => (.ok row, db)
      | none => (.error (.noSuchClient client), db) := by
  unfold requireClient
  rw [Work.run_bind, Work.run_client?]
  cases db.clients.find? (·.record.id = client) <;> rfl

variable {db : Database} (now : Number) (client : String)

theorem call_getClient :
    call now (.getClient client) [] db =
      (.ok ((db.clients.find? (·.record.id = client)).map (·.record)), db) := by
  rw [run_call]
  rfl

theorem call_getVersionByParent (parent : String) :
    call now (.getVersionByParent client parent) [] db =
      (.ok ((versionsOf client db.versions).find? (·.parent = parent)), db) := by
  rw [run_call, ← find?_versionsOf db.versions client fun v => v.parent = parent]
  rfl

theorem call_getSnapshot :
    call now (.getSnapshot client) [] db =
      (.ok ((db.clients.find? (·.record.id = client)).bind snapshot?), db) := by
  rw [run_call]
  rfl

section Unknown

variable (unknown : db.clients.find? (·.record.id = client) = none)
include unknown

theorem call_createClient_ok :
    call now (.createClient client) [] db =
      (.ok (.fresh client), { db with clients := db.clients ++ [⟨.fresh client, none⟩] }) := by
  simp only [run_call, perform, createClient, Work.run_bind, Work.run_client?, unknown,
    Option.isSome_none, Bool.false_eq_true, if_false, Work.run_insertClient, List.not_mem_nil,
    Client.fresh, Work.run_pure]

theorem call_addVersion_unknown (parent version : String) (segment : Bytes) :
    call now (.addVersion client parent version segment) [] db =
      (.error (.noSuchClient client), db) := by
  simp only [run_call, perform, addVersion, Work.run_bind, run_requireClient, unknown, Failure.wrap]

theorem call_addSnapshot_unknown (version : String) (data : Bytes) (prune : Bool) :
    call now (.addSnapshot client version data prune) [] db =
      (.error (.noSuchClient client), db) := by
  simp only [run_call, perform, addSnapshot, Work.run_bind, run_requireClient, unknown,
    Failure.wrap]

end Unknown

section Known

variable {client} {row : ClientRow} (known : db.clients.find? (·.record.id = client) = some row)
include known

theorem call_createClient_exists :
    call now (.createClient client) [] db = (.error (.clientAlreadyExists client), db) := by
  simp only [run_call, perform, createClient, Work.run_bind, Work.run_client?, known]
  rfl

theorem call_addVersion_conflict {parent : String} (behind : row.record.head ≠ parent)
    (version : String) (segment : Bytes) :
    call now (.addVersion client parent version segment) [] db =
      (.ok (.conflict row.record.head), db) := by
  simp only [run_call, perform, addVersion, Work.run_bind, run_requireClient, known, behind,
    if_false, Work.run_pure]

theorem call_addVersion_refused {parent : String} (head : row.record.head = parent)
    {version : String} {segment : Bytes} {columns : String}
    (repeats : repeatedKey? db.versions ⟨client, version, parent, segment⟩ = some columns) :
    call now (.addVersion client parent version segment) [] db =
      (.error ((Work.violates columns).wrap "Error adding version"), db) := by
  simp only [run_call, perform, addVersion, Work.run_bind, run_requireClient, known, head, if_true,
    Work.run_insertVersion, List.not_mem_nil, if_false, repeats, context]

theorem call_addVersion_committed {parent : String} (head : row.record.head = parent)
    {version : String} {segment : Bytes}
    (free : repeatedKey? db.versions ⟨client, version, parent, segment⟩ = none) :
    call now (.addVersion client parent version segment) [] db =
      (.ok (.committed (row.record.advance version)),
        ⟨changeRow client (fun row => { row with record := row.record.advance version }) db.clients,
          db.versions ++ [⟨client, version, parent, segment⟩]⟩) := by
  have changed := find?_changeRow_self known
    (fun row => { row with record := row.record.advance version }) fun _ => rfl
  simp only [run_call, perform, addVersion, Work.run_bind, run_requireClient, known, head, if_true,
    Work.run_insertVersion, List.not_mem_nil, if_false, free, Work.run_updateClient _ known, changed,
    Work.run_pure]

theorem call_addSnapshot_mismatch {version : String} (stale : row.record.head ≠ version)
    (data : Bytes) (prune : Bool) :
    call now (.addSnapshot client version data prune) [] db =
      (.ok (.mismatch row.record.head), db) := by
  simp only [run_call, perform, addSnapshot, Work.run_bind, run_requireClient, known, stale,
    if_false, Work.run_pure]

theorem call_addSnapshot_accepted {version : String} (head : row.record.head = version)
    (data : Bytes) (prune : Bool) :
    call now (.addSnapshot client version data prune) [] db =
      (.ok (.accepted (row.record.snapshotTaken version (timeColumn now))),
        ⟨changeRow client (fun row =>
            ⟨row.record.snapshotTaken version (timeColumn now), some data⟩) db.clients,
          if prune then db.versions.filter fun row =>
            !(row.client = client && row.version.id ≠ version)
          else db.versions⟩) := by
  have changed := find?_changeRow_self known (fun row =>
    ⟨row.record.snapshotTaken version (timeColumn now), some data⟩) fun _ => rfl
  cases prune with
  | false =>
    simp only [run_call, perform, addSnapshot, Work.run_bind, run_requireClient, known, head,
      if_true, Work.run_updateClient _ known, List.not_mem_nil, changed, Work.run_pure,
      Bool.false_eq_true, if_false]
  | true =>
    simp only [run_call, perform, addSnapshot, Work.run_bind, run_requireClient, known, head,
      if_true, Work.run_updateClient _ known, Work.run_deleteVersions, List.not_mem_nil, and_false,
      if_false, changed, Work.run_pure]

end Known

end Embedded

end TaskSync.Store
