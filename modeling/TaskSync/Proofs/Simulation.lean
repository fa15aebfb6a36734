import TaskSync.Proofs.Chains
import TaskSync.Proofs.Contract

/-!
# Both stores are one

Whatever calls are made and whatever ids they use, the store in memory and the
database answer alike, up to the first version whose row repeats a key. The
database refuses that version. In memory it takes the place of an older one.
-/

namespace TaskSync.Store

/-- For every client the chain in memory holds what the rows of the database hold. -/
def Memory.Mirrors (m : Memory) (db : Database) : Prop :=
  ∀ client, match m.get? client, db.clients.find? (·.record.id = client) with
    | none, none => versionsOf client db.versions = []
    | some chain, some row =>
      chain.Holds row.record row.snapshot (versionsOf client db.versions) ∧
        ((versionsOf client db.versions).map (·.id)).Nodup
    | _, _ => False

/-- The answer says that a row would repeat a key. -/
def Refused {α : Type} (reply : Except Failure α) : Prop :=
  ∃ context columns,
    reply = .error (.storage context (.error ("UNIQUE constraint failed: " ++ columns)))

/-- A call adds a version behind the head, and an older version has its id or its parent. -/
def Memory.Replaces (m : Memory) : Call → Prop
  | .addVersion client parent version _ => ∃ chain, m.get? client = some chain ∧
      chain.client.head = parent ∧
      ((chain.versions.get? version).isSome ∨ (chain.children.get? parent).isSome)
  | _ => False

/-- Both stores answer a call alike, and hold the same then. -/
def Memory.Follows (m : Memory) (db : Database) (now : Number) (c : Call) : Prop :=
  (m.call now c).1 = (Embedded.call now c [] db).1 ∧
    (m.call now c).2.Mirrors (Embedded.call now c [] db).2

namespace Memory

variable {m : Memory} {db : Database}

theorem not_refused (m : Memory) (now : Number) (c : Call) : ¬ Refused (m.call now c).1 := by
  rintro ⟨context, columns, hreply⟩
  cases c with
  | getClient client => cases hreply
  | getVersionByParent client parent => cases hreply
  | getSnapshot client => cases hreply
  | createClient client =>
    simp only [call, createClient] at hreply
    split at hreply <;> cases hreply
  | addVersion client parent version segment =>
    simp only [call, addVersion] at hreply
    split at hreply
    · cases hreply
    · split at hreply <;> cases hreply
  | addSnapshot client version data prune =>
    simp only [call, addSnapshot] at hreply
    split at hreply
    · cases hreply
    · split at hreply <;> cases hreply

theorem mirrors_empty : Memory.empty.Mirrors .empty := by
  intro client
  rfl

theorem Mirrors.cases (mirrors : m.Mirrors db) (client : String) :
    (m.get? client = none ∧ db.clients.find? (·.record.id = client) = none ∧
        versionsOf client db.versions = []) ∨
      ∃ chain row, m.get? client = some chain ∧
        db.clients.find? (·.record.id = client) = some row ∧
        chain.Holds row.record row.snapshot (versionsOf client db.versions) ∧
        ((versionsOf client db.versions).map (·.id)).Nodup := by
  have hclient := mirrors client
  cases hm : m.get? client with
  | none =>
    cases hrow : db.clients.find? (·.record.id = client) with
    | none =>
      rw [hm, hrow] at hclient
      exact .inl ⟨rfl, rfl, hclient⟩
    | some row =>
      rw [hm, hrow] at hclient
      exact hclient.elim
  | some chain =>
    cases hrow : db.clients.find? (·.record.id = client) with
    | none =>
      rw [hm, hrow] at hclient
      exact hclient.elim
    | some row =>
      rw [hm, hrow] at hclient
      exact .inr ⟨chain, row, rfl, rfl, hclient.1, hclient.2⟩

theorem Mirrors.create (mirrors : m.Mirrors db) {client : String}
    (unknown : db.clients.find? (·.record.id = client) = none)
    (none : versionsOf client db.versions = []) :
    (m.put client (.fresh client)).Mirrors
      { db with clients := db.clients ++ [⟨.fresh client, .none⟩] } := by
  intro other
  rw [get?_put]
  by_cases ho : other = client
  · subst ho
    simp only [if_true, List.find?_append, unknown, Option.none_or, List.find?_singleton,
      Client.fresh, decide_true, none, List.map_nil, List.nodup_nil, and_true]
    exact Chain.Holds.fresh other
  · have hne : ¬ client = other := fun h => ho h.symm
    have hsame : (db.clients ++ [(⟨.fresh client, .none⟩ : ClientRow)]).find? (·.record.id = other) =
        db.clients.find? (·.record.id = other) := by
      simp [List.find?_append, Client.fresh, hne]
    rw [if_neg ho, hsame]
    exact mirrors other

theorem Mirrors.update (mirrors : m.Mirrors db) {client : String} {chain : Chain} {row : ClientRow}
    {change : ClientRow → ClientRow} {versions : List VersionRow}
    (known : db.clients.find? (·.record.id = client) = some row)
    (hid : ∀ row, (change row).record.id = row.record.id)
    (holds : chain.Holds (change row).record (change row).snapshot (versionsOf client versions))
    (distinct : ((versionsOf client versions).map (·.id)).Nodup)
    (others : ∀ other, other ≠ client → versionsOf other versions = versionsOf other db.versions) :
    (m.put client chain).Mirrors ⟨changeRow client change db.clients, versions⟩ := by
  intro other
  rw [get?_put, find?_changeRow db.clients client hid]
  by_cases ho : other = client
  · subst ho
    simp only [if_true, known, Option.map_some]
    exact ⟨holds, distinct⟩
  · simp only [if_neg ho, others other ho]
    exact mirrors other

/-! ## One lemma for each call -/

theorem Follows.intro {now : Number} {c : Call} (reply : Except Failure c.Reply) {m' : Memory}
    {db' : Database} (memory : m.call now c = (reply, m'))
    (database : Embedded.call now c [] db = (reply, db')) (mirrors : m'.Mirrors db') :
    m.Follows db now c := by
  unfold Follows
  rw [memory, database]
  exact ⟨rfl, mirrors⟩

variable (mirrors : m.Mirrors db) (now : Number)
include mirrors

theorem follows_getClient (client : String) : m.Follows db now (.getClient client) := by
  refine .intro _ rfl ?_ mirrors
  rw [Embedded.call_getClient]
  rcases mirrors.cases client with ⟨hm, hrow, -⟩ | ⟨chain, row, hm, hrow, holds, -⟩
  · rw [hm, hrow]
    rfl
  · rw [hm, hrow, Option.map_some, Option.map_some, holds.client]

theorem follows_createClient (client : String) : m.Follows db now (.createClient client) := by
  rcases mirrors.cases client with ⟨hm, hrow, none⟩ | ⟨chain, row, hm, hrow, -, -⟩
  · exact .intro _ (by simp only [Memory.call, Memory.createClient, hm])
      (Embedded.call_createClient_ok now client hrow) (mirrors.create hrow none)
  · exact .intro _ (by simp only [Memory.call, Memory.createClient, hm])
      (Embedded.call_createClient_exists now hrow) mirrors

theorem follows_getVersionByParent (client parent : String) :
    m.Follows db now (.getVersionByParent client parent) := by
  refine .intro _ rfl ?_ mirrors
  rw [Embedded.call_getVersionByParent]
  rcases mirrors.cases client with ⟨hm, -, none⟩ | ⟨chain, row, hm, -, holds, distinct⟩
  · rw [hm, none]
    rfl
  · rw [hm, Option.bind_some, holds.child? distinct]

theorem follows_getSnapshot (client : String) : m.Follows db now (.getSnapshot client) := by
  refine .intro _ rfl ?_ mirrors
  rw [Embedded.call_getSnapshot]
  rcases mirrors.cases client with ⟨hm, hrow, -⟩ | ⟨chain, row, hm, hrow, holds, -⟩
  · rw [hm, hrow]
    rfl
  · rw [hm, hrow, Option.bind_some, Option.bind_some, Chain.snapshot?, holds.client,
      holds.snapshot]
    rfl

theorem follows_addVersion (client parent version : String) (segment : Bytes) :
    m.Follows db now (.addVersion client parent version segment) ∨
      (Refused (Embedded.call now (.addVersion client parent version segment) [] db).1 ∧
        m.Replaces (.addVersion client parent version segment)) := by
  rcases mirrors.cases client with ⟨hm, hrow, -⟩ | ⟨chain, row, hm, hrow, holds, distinct⟩
  · exact .inl (.intro _ (by simp only [Memory.call, Memory.addVersion, hm])
      (Embedded.call_addVersion_unknown now client hrow ..) mirrors)
  · by_cases head : row.record.head = parent
    · cases hkey : repeatedKey? db.versions ⟨client, version, parent, segment⟩ with
      | none =>
        have free := repeatedKey?_eq_none_iff.mp hkey
        have own : versionsOf client (db.versions ++ [⟨client, version, parent, segment⟩]) =
            versionsOf client db.versions ++ [⟨version, parent, segment⟩] := by
          rw [versionsOf_append]
          simp [versionsOf]
        have appended := holds.append (v := ⟨version, parent, segment⟩)
          (fun w hw => (free w hw).1) fun w hw => (free w hw).2
        refine .inl (.intro _ ?_ (Embedded.call_addVersion_committed now hrow head hkey)
          (mirrors.update hrow (fun _ => rfl) (own ▸ appended) ?_ ?_))
        · simp only [Memory.call, Memory.addVersion, hm, holds.client, if_pos head,
            appended.client]
        · rw [own, List.map_append]
          refine List.nodup_append.mpr ⟨distinct, List.nodup_singleton _, ?_⟩
          simp only [List.mem_map, List.map_cons, List.map_nil, List.mem_singleton]
          rintro _ ⟨w, hw, rfl⟩ _ rfl
          exact (free w hw).2
        · intro other ho
          have hne : client ≠ other := Ne.symm ho
          rw [versionsOf_append]
          simp [versionsOf, hne]
      | some columns =>
        refine .inr ⟨?_, chain, hm, ?_, ?_⟩
        · rw [Embedded.call_addVersion_refused now hrow head hkey]
          exact ⟨_, columns, rfl⟩
        · rw [holds.client, head]
        · -- An older version has the key.
          by_contra free
          rw [not_or, holds.versions, holds.children] at free
          have none : repeatedKey? db.versions ⟨client, version, parent, segment⟩ = none := by
            rw [repeatedKey?_eq_none_iff]
            intro w hw
            simp only [List.find?_isSome, Option.isSome_map, decide_eq_true_eq, not_exists,
              not_and] at free
            exact ⟨free.2 w hw, free.1 w hw⟩
          rw [none] at hkey
          cases hkey
    · exact .inl (.intro _
        (by simp only [Memory.call, Memory.addVersion, hm, holds.client, if_neg head])
        (Embedded.call_addVersion_conflict now hrow head version segment) mirrors)

theorem follows_addSnapshot (clock : now.isNaN = false) (client version : String) (data : Bytes)
    (prune : Bool) : m.Follows db now (.addSnapshot client version data prune) := by
  rcases mirrors.cases client with ⟨hm, hrow, -⟩ | ⟨chain, row, hm, hrow, holds, distinct⟩
  · exact .intro _ (by simp only [Memory.call, Memory.addSnapshot, hm])
      (Embedded.call_addSnapshot_unknown now client hrow ..) mirrors
  · by_cases head : row.record.head = version
    · have time : Embedded.timeColumn now = some now := by simp [Embedded.timeColumn, clock]
      have taken := holds.take version data now
      have accepted := Embedded.call_addSnapshot_accepted now hrow head data prune
      rw [time] at accepted
      cases prune with
      | false =>
        refine .intro _ ?_ accepted
          (mirrors.update hrow (fun _ => rfl) taken distinct fun other _ => rfl)
        simp only [Memory.call, Memory.addSnapshot, hm, holds.client, if_pos head, taken.client,
          Bool.false_eq_true, if_false]
      | true =>
        have pruned := taken.keepOnly distinct version
        have own := versionsOf_delete db.versions client version client
        rw [if_pos rfl] at own
        refine .intro _ ?_ accepted
          (mirrors.update hrow (fun _ => rfl) (own ▸ pruned) ?_ fun other ho => ?_)
        · simp only [Memory.call, Memory.addSnapshot, hm, holds.client, if_pos head, if_true,
            pruned.client]
        · rw [if_pos rfl, own]
          exact distinct.sublist ((List.filter_sublist ..).map _)
        · rw [if_pos rfl, versionsOf_delete, if_neg ho]
    · exact .intro _
        (by simp only [Memory.call, Memory.addSnapshot, hm, holds.client, if_neg head])
        (Embedded.call_addSnapshot_mismatch now hrow head data prune) mirrors

/-- Both stores answer a call alike, unless it is refused for a key. -/
theorem follows_or_refused (clock : now.isNaN = false) (c : Call) :
    m.Follows db now c ∨ (Refused (Embedded.call now c [] db).1 ∧ m.Replaces c) := by
  cases c with
  | getClient client => exact .inl (follows_getClient mirrors now client)
  | createClient client => exact .inl (follows_createClient mirrors now client)
  | getVersionByParent client parent =>
    exact .inl (follows_getVersionByParent mirrors now client parent)
  | addVersion client parent version segment =>
    exact follows_addVersion mirrors now client parent version segment
  | addSnapshot client version data prune =>
    exact .inl (follows_addSnapshot mirrors now clock client version data prune)
  | getSnapshot client => exact .inl (follows_getSnapshot mirrors now client)

end Memory

end TaskSync.Store

namespace TaskSync.Scenario

open Store

namespace Backing

/-- The call would have the store in memory put a version in the place of an older one. -/
def Replaces (c : Call) : Backing → Prop
  | memory state => state.Replaces c
  | _ => False

end Backing

namespace Recorded

/-- Two stores have answered the same calls alike, and no version was refused. -/
structure Alike (a b : Recorded) : Prop where
  answers : a.history = b.history
  accepted : ∀ e ∈ b.history, ¬ Refused e.reply

/-- A store in memory and a database that have answered alike hold the same. -/
structure Matched (a b : Recorded) : Prop where
  alike : Alike a b
  stores : ∃ m host, a.store = .memory m ∧ b.store = .embedded host ∧ host.faults = [] ∧
    host.closed = [] ∧ m.Mirrors host.database

variable {a b : Recorded} {time : Number} {c : Call}

theorem Matched.call (matched : Matched a b) (clock : time.isNaN = false) :
    Matched (a.call time c) (b.call time c) ∨
      (Refused (b.store.call 0 time c).1 ∧ a.store.Replaces c) := by
  obtain ⟨⟨answers, accepted⟩, m, host, ha, hb, faults, closed, mirrors⟩ := matched
  have database : b.store.call 0 time c =
      ((Embedded.call time c [] host.database).1,
        .embedded { host with database := (Embedded.call time c [] host.database).2 }) := by
    simp only [hb, Backing.call, closed, List.contains_nil, Bool.false_eq_true, if_false,
      Hosted.run, faults]
    rfl
  rcases Memory.follows_or_refused mirrors time clock c with ⟨reply, after⟩ | ⟨refused, replaces⟩
  · have memory : a.store.call 0 time c = ((m.call time c).1, .memory (m.call time c).2) := by
      simp only [ha, Backing.call]
    refine .inl ⟨⟨?_, ?_⟩, ?_⟩
    · simp only [Recorded.call, memory, database, answers, reply]
    · simp only [Recorded.call, database, List.mem_append, List.mem_singleton]
      rintro e (he | rfl)
      · exact accepted e he
      · rw [← reply]
        exact m.not_refused time c
    · simp only [Recorded.call, memory, database]
      exact ⟨_, _, rfl, rfl, faults, closed, after⟩
  · refine .inr ⟨?_, ?_⟩
    · rw [database]
      exact refused
    · rw [ha]
      exact replaces

theorem matched_or_refused (onFile : Bool) {calls : List (Number × Call)}
    (clock : ∀ made ∈ calls, made.1.isNaN = false) :
    Matched (run (.memory .empty) calls) (run (.embedded { onFile }) calls) ∨
      ∃ before made after, calls = before ++ made :: after ∧
        Matched (run (.memory .empty) before) (run (.embedded { onFile }) before) ∧
        Refused ((run (.embedded { onFile }) before).store.call 0 made.1 made.2).1 ∧
        (run (.memory .empty) before).store.Replaces made.2 := by
  induction calls using List.reverseRecOn with
  | nil =>
    refine .inl ⟨⟨rfl, ?_⟩, .empty, { onFile }, rfl, rfl, rfl, rfl, Memory.mirrors_empty⟩
    intro e he
    cases he
  | append_singleton calls made ih =>
    rcases ih fun other hother => clock other (List.mem_append_left _ hother) with
      matched | ⟨before, first, after, rfl, found⟩
    · rw [run_snoc, run_snoc]
      rcases matched.call (c := made.2) (clock made (by simp)) with matched' | refused
      · exact .inl matched'
      · exact .inr ⟨calls, made, [], rfl, matched, refused⟩
    · exact .inr ⟨before, first, after ++ [made], by simp, found⟩

end Recorded

/-- **One store.** New stores of both kinds answer any calls alike, up to the first one, if any,
that the database refuses because a version's row repeats a key. In memory that version takes the
place of an older one. -/
theorem stores_alike (onFile : Bool) {calls : List (Number × Call)}
    (clock : ∀ made ∈ calls, made.1.isNaN = false) :
    Recorded.Alike (.run (.memory .empty) calls) (.run (.embedded { onFile }) calls) ∨
      ∃ before made after, calls = before ++ made :: after ∧
        Recorded.Alike (.run (.memory .empty) before) (.run (.embedded { onFile }) before) ∧
        Refused ((Recorded.run (.embedded { onFile }) before).store.call 0 made.1 made.2).1 ∧
        (Recorded.run (.memory .empty) before).store.Replaces made.2 := by
  rcases Recorded.matched_or_refused onFile clock with
    matched | ⟨before, made, after, hcalls, matched, refused⟩
  · exact .inl matched.alike
  · exact .inr ⟨before, made, after, hcalls, matched.alike, refused⟩

/-- The nil id is used for a version, an id once pruned is used again, and then a parent. -/
def reusingRun : List (Number × Call) :=
  [(0, .addVersion "c" nilId "v1" []), (1, .createClient "c"), (2, .createClient "c"),
    (3, .addSnapshot "c" nilId [] true), (4, .addVersion "c" nilId "v1" []),
    (5, .addVersion "c" "v1" nilId [1]), (6, .addSnapshot "c" nilId [2] true),
    (7, .addVersion "c" nilId "v1" [3]), (8, .getVersionByParent "c" nilId), (9, .getSnapshot "c"),
    (10, .addVersion "c" "v1" "v2" [4]), (11, .getClient "c")]

theorem stores_alike_reusing :
    (∀ made ∈ reusingRun, made.1.isNaN = false) ∧
      (Recorded.Alike (.run (.memory .empty) reusingRun) (.run (.embedded {}) reusingRun) ∨
        ∃ before made after, reusingRun = before ++ made :: after ∧
          Recorded.Alike (.run (.memory .empty) before) (.run (.embedded {}) before) ∧
          Refused ((Recorded.run (.embedded {}) before).store.call 0 made.1 made.2).1 ∧
          (Recorded.run (.memory .empty) before).store.Replaces made.2) := by
  have clock : ∀ made ∈ reusingRun, made.1.isNaN = false := by decide
  exact ⟨clock, stores_alike false clock⟩

end TaskSync.Scenario
