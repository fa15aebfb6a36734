import TaskSync.Proofs.Atomicity
import TaskSync.Proofs.Gate

/-!
# What a store is made of

The ids and the contents in a store, in all the places where it holds them. A
call adds no others than its own, so that what holds of all that the requests
bring and of all ids drawn holds of all that is stored.
-/

namespace TaskSync

/-! ## Parts -/

inductive Part where
  | id (value : String)
  | content (bytes : Bytes)
deriving DecidableEq

def Client.parts (client : Client) : List Part :=
  .id client.id :: .id client.head :: client.snapshotVersion.toList.map .id

def Version.parts (version : Version) : List Part :=
  [.id version.id, .id version.parent, .content version.segment]

namespace Store

def Chain.parts (chain : Chain) : List Part :=
  chain.client.parts ++ chain.snapshot.toList.map .content ++
    chain.versions.entries.flatMap (fun entry => .id entry.1 :: entry.2.parts) ++
      chain.children.entries.flatMap fun entry => [.id entry.1, .id entry.2]

def Memory.parts (m : Memory) : List Part :=
  m.chains.entries.flatMap fun entry => .id entry.1 :: entry.2.parts

def ClientRow.parts (row : ClientRow) : List Part :=
  row.record.parts ++ row.snapshot.toList.map .content

def VersionRow.parts (row : VersionRow) : List Part := .id row.client :: row.version.parts

def Database.parts (db : Database) : List Part :=
  db.clients.flatMap (·.parts) ++ db.versions.flatMap (·.parts)

def Call.parts : Call → List Part
  | .getClient client | .createClient client | .getSnapshot client => [.id client]
  | .getVersionByParent client parent => [.id client, .id parent]
  | .addVersion client parent version segment =>
    [.id client, .id parent, .id version, .content segment]
  | .addSnapshot client version data _ => [.id client, .id version, .content data]

namespace Table

variable {α : Type} {t : Table α}

theorem mem_entries {key : String} {value : α} (found : t.get? key = some value) :
    (key, value) ∈ t.entries := by
  obtain ⟨entries⟩ := t
  change getEntry? key entries = some value at found
  induction entries with
  | nil => cases found
  | cons entry rest ih =>
    obtain ⟨k, old⟩ := entry
    unfold getEntry? at found
    split at found
    · next same =>
      cases found
      exact same ▸ List.mem_cons_self
    · exact List.mem_cons_of_mem _ (ih found)

theorem forall_set {R : String × α → Prop} (held : ∀ entry ∈ t.entries, R entry) {key : String}
    {value : α} (own : R (key, value)) : ∀ entry ∈ (t.set key value).entries, R entry := by
  obtain ⟨entries⟩ := t
  change ∀ entry ∈ setEntry key value entries, R entry
  induction entries with
  | nil => exact List.forall_mem_singleton.mpr own
  | cons entry rest ih =>
    obtain ⟨k, old⟩ := entry
    obtain ⟨first, rest'⟩ := List.forall_mem_cons.mp held
    rw [setEntry]
    split
    · next same => exact List.forall_mem_cons.mpr ⟨same ▸ own, rest'⟩
    · exact List.forall_mem_cons.mpr ⟨first, ih rest'⟩

end Table

section

variable {P : Part → Prop}

/-! ## Place by place -/

theorem forall_client {client : Client} : (∀ p ∈ client.parts, P p) ↔
    P (.id client.id) ∧ P (.id client.head) ∧
      ∀ version ∈ client.snapshotVersion, P (.id version) := by
  simp [Client.parts]

theorem forall_version {version : Version} : (∀ p ∈ version.parts, P p) ↔
    P (.id version.id) ∧ P (.id version.parent) ∧ P (.content version.segment) := by
  simp [Version.parts]

theorem Chain.forall_parts {chain : Chain} : (∀ p ∈ chain.parts, P p) ↔
    (∀ p ∈ chain.client.parts, P p) ∧ (∀ data ∈ chain.snapshot, P (.content data)) ∧
      (∀ entry ∈ chain.versions.entries, P (.id entry.1) ∧ ∀ p ∈ entry.2.parts, P p) ∧
        ∀ entry ∈ chain.children.entries, P (.id entry.1) ∧ P (.id entry.2) := by
  simp only [Chain.parts, List.forall_mem_append, List.forall_mem_flatMap, List.forall_mem_cons,
    List.forall_mem_map, Option.mem_toList, Option.mem_def, List.not_mem_nil, false_implies,
    implies_true, and_true, and_assoc]

theorem Memory.forall_parts {m : Memory} : (∀ p ∈ m.parts, P p) ↔
    ∀ entry ∈ m.chains.entries, P (.id entry.1) ∧ ∀ p ∈ entry.2.parts, P p := by
  simp only [Memory.parts, List.forall_mem_flatMap, List.forall_mem_cons]

theorem ClientRow.forall_parts {row : ClientRow} : (∀ p ∈ row.parts, P p) ↔
    (∀ p ∈ row.record.parts, P p) ∧ ∀ data ∈ row.snapshot, P (.content data) := by
  simp only [ClientRow.parts, List.forall_mem_append, List.forall_mem_map, Option.mem_toList,
    Option.mem_def]

theorem Database.forall_parts {db : Database} : (∀ p ∈ db.parts, P p) ↔
    (∀ row ∈ db.clients, ∀ p ∈ row.parts, P p) ∧ ∀ row ∈ db.versions, ∀ p ∈ row.parts, P p := by
  simp only [Database.parts, List.forall_mem_append, List.forall_mem_flatMap]

/-! ## What calls leave -/

theorem forall_fresh (nil : P (.id nilId)) {client : String} (own : P (.id client)) :
    ∀ p ∈ (Client.fresh client).parts, P p :=
  forall_client.mpr ⟨own, nil, nofun⟩

theorem forall_advance {client : Client} (held : ∀ p ∈ client.parts, P p) {version : String}
    (own : P (.id version)) : ∀ p ∈ (client.advance version).parts, P p := by
  obtain ⟨id, -, snapshot⟩ := forall_client.mp held
  exact forall_client.mpr ⟨id, own, snapshot⟩

theorem forall_snapshotTaken {client : Client} (held : ∀ p ∈ client.parts, P p) {version : String}
    (own : P (.id version)) (time : Option Number) :
    ∀ p ∈ (client.snapshotTaken version time).parts, P p := by
  obtain ⟨id, head, -⟩ := forall_client.mp held
  refine forall_client.mpr ⟨id, head, ?_⟩
  rintro _ ⟨rfl⟩
  exact own

namespace Chain

theorem parts_fresh (nil : P (.id nilId)) {client : String} (own : P (.id client)) :
    ∀ p ∈ (fresh client).parts, P p :=
  forall_parts.mpr
    ⟨forall_fresh nil own, nofun, List.forall_mem_nil _, List.forall_mem_nil _⟩

variable {chain : Chain} (held : ∀ p ∈ chain.parts, P p)
include held

theorem parts_append {version : Version} (own : ∀ p ∈ version.parts, P p) :
    ∀ p ∈ (chain.append version).parts, P p := by
  obtain ⟨client, snapshot, versions, children⟩ := forall_parts.mp held
  obtain ⟨id, parent, -⟩ := forall_version.mp own
  exact forall_parts.mpr ⟨forall_advance client id, snapshot,
    Table.forall_set versions ⟨id, own⟩, Table.forall_set children ⟨parent, id⟩⟩

theorem parts_takeSnapshot {version : String} {data : Bytes} (id : P (.id version))
    (content : P (.content data)) (time : Number) :
    ∀ p ∈ (chain.takeSnapshot version data time).parts, P p := by
  obtain ⟨client, -, versions, children⟩ := forall_parts.mp held
  refine forall_parts.mpr ⟨forall_snapshotTaken client id _, ?_, versions, children⟩
  rintro _ ⟨rfl⟩
  exact content

theorem parts_keepOnly (id : String) : ∀ p ∈ (chain.keepOnly id).parts, P p := by
  obtain ⟨client, snapshot, versions, children⟩ := forall_parts.mp held
  unfold keepOnly
  split
  · next version found =>
    obtain ⟨-, own⟩ := versions _ (Table.mem_entries found)
    obtain ⟨id, parent, -⟩ := forall_version.mp own
    exact forall_parts.mpr ⟨client, snapshot, List.forall_mem_singleton.mpr ⟨id, own⟩,
      List.forall_mem_singleton.mpr ⟨parent, id⟩⟩
  · exact forall_parts.mpr ⟨client, snapshot, List.forall_mem_nil _, List.forall_mem_nil _⟩

end Chain

namespace Memory

variable {m : Memory} (held : ∀ p ∈ m.parts, P p)
include held

theorem parts_get? {client : String} {chain : Chain} (found : m.get? client = some chain) :
    P (.id client) ∧ ∀ p ∈ chain.parts, P p :=
  forall_parts.mp held _ (Table.mem_entries found)

theorem parts_put {client : String} {chain : Chain} (own : P (.id client))
    (parts : ∀ p ∈ chain.parts, P p) : ∀ p ∈ (m.put client chain).parts, P p :=
  forall_parts.mpr (Table.forall_set (forall_parts.mp held) ⟨own, parts⟩)

theorem parts_call (nil : P (.id nilId)) (time : Number) {c : Call} (own : ∀ p ∈ c.parts, P p) :
    ∀ p ∈ (m.call time c).2.parts, P p := by
  cases c with
  | getClient client | getVersionByParent client parent | getSnapshot client => exact held
  | createClient client =>
    have id : P (.id client) := own _ List.mem_cons_self
    simp only [call, createClient]
    split
    · exact held
    · exact parts_put held id (Chain.parts_fresh nil id)
  | addVersion client parent version segment =>
    obtain ⟨-, hparent, hversion, content⟩ : _ ∧ _ ∧ _ ∧ _ := by simpa [Call.parts] using own
    simp only [call, addVersion]
    split
    · exact held
    · next chain found =>
      obtain ⟨id, parts⟩ := parts_get? held found
      split
      · exact parts_put held id
          (Chain.parts_append parts (forall_version.mpr ⟨hversion, hparent, content⟩))
      · exact held
  | addSnapshot client version data prune =>
    obtain ⟨-, hversion, content⟩ : _ ∧ _ ∧ _ := by simpa [Call.parts] using own
    simp only [call, addSnapshot]
    split
    · exact held
    · next chain found =>
      obtain ⟨id, parts⟩ := parts_get? held found
      have taken := Chain.parts_takeSnapshot parts hversion content time
      split
      · refine parts_put held id ?_
        split
        · exact Chain.parts_keepOnly taken version
        · exact taken
      · exact held

end Memory

theorem VersionRow.forall_parts {row : VersionRow} : (∀ p ∈ row.parts, P p) ↔
    P (.id row.client) ∧ ∀ p ∈ row.version.parts, P p := by
  rw [VersionRow.parts, List.forall_mem_cons]

namespace Embedded

variable {db : Database} {c : Call}

theorem call_cases (now : Number) (c : Call) (faults : List Fault) (db : Database) :
    (call now c faults db).2 = db ∨ (call now c faults db).2 = written now db c := by
  rcases decides_or_ready db c with ⟨reply, decides⟩ | ready
  · exact .inl (congrArg Prod.snd (call_of_decides now decides))
  · cases raised : raised? faults db c with
    | some failure => exact .inl (congrArg Prod.snd (call_of_raised now ready raised))
    | none =>
      obtain ⟨reply, record, whole, -⟩ := call_of_sound now ready raised
      exact .inr (congrArg Prod.snd whole)

theorem forall_changeRow {rows : List ClientRow} {client : String} {change : ClientRow → ClientRow}
    (held : ∀ row ∈ rows, ∀ p ∈ row.parts, P p)
    (changed : ∀ row : ClientRow, (∀ p ∈ row.parts, P p) → ∀ p ∈ (change row).parts, P p) :
    ∀ row ∈ changeRow client change rows, ∀ p ∈ row.parts, P p := by
  refine List.forall_mem_map.mpr fun row hrow => ?_
  split
  · exact changed row (held row hrow)
  · exact held row hrow

theorem parts_written (held : ∀ p ∈ db.parts, P p) (nil : P (.id nilId)) (now : Number)
    (own : ∀ p ∈ c.parts, P p) : ∀ p ∈ (written now db c).parts, P p := by
  obtain ⟨clients, versions⟩ := Database.forall_parts.mp held
  cases c with
  | getClient client | getVersionByParent client parent | getSnapshot client => exact held
  | createClient client =>
    refine Database.forall_parts.mpr ⟨List.forall_mem_append.mpr ⟨clients, ?_⟩, versions⟩
    refine List.forall_mem_singleton.mpr (ClientRow.forall_parts.mpr ⟨?_, nofun⟩)
    exact forall_fresh nil (own _ List.mem_cons_self)
  | addVersion client parent version segment =>
    obtain ⟨hclient, hparent, hversion, content⟩ : _ ∧ _ ∧ _ ∧ _ := by simpa [Call.parts] using own
    refine Database.forall_parts.mpr ⟨forall_changeRow clients fun row held => ?_,
      List.forall_mem_append.mpr ⟨versions, List.forall_mem_singleton.mpr ?_⟩⟩
    · obtain ⟨record, snapshot⟩ := ClientRow.forall_parts.mp held
      exact ClientRow.forall_parts.mpr ⟨forall_advance record hversion, snapshot⟩
    · exact VersionRow.forall_parts.mpr
        ⟨hclient, forall_version.mpr ⟨hversion, hparent, content⟩⟩
  | addSnapshot client version data prune =>
    obtain ⟨-, hversion, content⟩ : _ ∧ _ ∧ _ := by simpa [Call.parts] using own
    refine Database.forall_parts.mpr ⟨forall_changeRow clients fun row held => ?_, ?_⟩
    · obtain ⟨record, -⟩ := ClientRow.forall_parts.mp held
      refine ClientRow.forall_parts.mpr ⟨forall_snapshotTaken record hversion _, ?_⟩
      rintro _ ⟨rfl⟩
      exact content
    · unfold written
      dsimp only
      split
      · exact fun row hrow => versions row (List.mem_of_mem_filter hrow)
      · exact versions

theorem parts_call (held : ∀ p ∈ db.parts, P p) (nil : P (.id nilId)) (now : Number)
    (own : ∀ p ∈ c.parts, P p) (faults : List Fault) :
    ∀ p ∈ (call now c faults db).2.parts, P p := by
  rcases call_cases now c faults db with same | more
  · rw [same]
    exact held
  · rw [more]
    exact parts_written held nil now own

end Embedded

end

end Store

namespace Scenario

open Store
open Http (App Command Response)

def Backing.parts : Backing → List Part
  | memory state => state.parts
  | embedded host => host.database.parts
  | unreachable _ => []

theorem Backing.parts_call {P : Part → Prop} {b : Backing} (held : ∀ p ∈ b.parts, P p)
    (nil : P (.id nilId)) (connection : Nat) (now : Number) {c : Call}
    (own : ∀ p ∈ c.parts, P p) : ∀ p ∈ (b.call connection now c).2.parts, P p := by
  unfold Backing.call
  cases b with
  | memory state => exact Memory.parts_call held nil now own
  | embedded host =>
    dsimp only
    split
    · exact held
    · exact Embedded.parts_call held nil now own host.faults
  | unreachable failure => exact held

end Scenario

/-! ## What conversations bring -/

def Http.Command.parts : Http.Command → List Part
  | addVersion client parent segment => [.id client, .id parent, .content segment]
  | getChildVersion client parent => [.id client, .id parent]
  | addSnapshot client version data => [.id client, .id version, .content data]
  | getSnapshot client => [.id client]

/-- All calls of a conversation bring such parts only, as long as such ids only are drawn. -/
inductive Brings {α : Type} (P : Part → Prop) : Conversation α → Prop where
  | done (value : α) : Brings P (.done value)
  | store {c : Store.Call} {next : Except Failure c.Reply → Conversation α}
      (own : ∀ p ∈ c.parts, P p) (h : ∀ reply, Brings P (next reply)) :
      Brings P (.ask (.store c) next)
  | freshId {next : String → Conversation α} (h : ∀ id, P (.id id) → Brings P (next id)) :
      Brings P (.ask .freshId next)
  | now {next : Number → Conversation α} (h : ∀ time, Brings P (next time)) :
      Brings P (.ask .now next)
  | stopwatch {next : Number → Conversation α} (h : ∀ time, Brings P (next time)) :
      Brings P (.ask .stopwatch next)
  | note {entry : Journal.Entry} {next : Unit → Conversation α} (h : Brings P (next ())) :
      Brings P (.ask (.note entry) next)

namespace Brings

open Http

variable {α β : Type} {P : Part → Prop}

theorem bind {d : Conversation α} {f : α → Conversation β} (p : Brings P d)
    (h : ∀ value, Brings P (f value)) : Brings P (d >>= f) := by
  induction p with
  | done value => exact h value
  | store own _ ih => exact .store own ih
  | freshId _ ih => exact .freshId ih
  | now _ ih => exact .now ih
  | stopwatch _ ih => exact .stopwatch ih
  | note _ ih => exact .note ih

/-- What brings such parts only where a conversation can have led, brings no others. -/
theorem of_leads {post : α → List Told → Prop} {d : Conversation α} {said : List Told}
    (p : Leads Speaks post d said) (drawn : ∀ id, ⟨.freshId, id⟩ ∈ said → P (.id id))
    (makes : ∀ value said, post value said → ∀ earlier c reply later,
      said = earlier ++ ⟨.store c, reply⟩ :: later →
        (∀ id, ⟨.freshId, id⟩ ∈ earlier → P (.id id)) → ∀ p ∈ c.parts, P p) : Brings P d := by
  have more {said : List Told} (drawn : ∀ id, ⟨.freshId, id⟩ ∈ said → P (.id id)) {told : Told}
      (own : ∀ id, told = ⟨.freshId, id⟩ → P (.id id)) :
      ∀ id, ⟨.freshId, id⟩ ∈ said ++ [told] → P (.id id) := by
    intro id mem
    rcases List.mem_append.mp mem with mem | mem
    · exact drawn id mem
    · exact own id (List.mem_singleton.mp mem).symm
  induction d generalizing said with
  | done value => exact .done value
  | ask question next ih =>
    cases question with
    | store c =>
      refine .store ?_ fun reply => ih reply (p.of_ask rfl) (more drawn nofun)
      -- Whatever it is answered, the conversation comes to an end, after which the call was made.
      have failed : Leads Speaks post (next (.error (.plain ""))) _ := p.of_ask rfl
      obtain ⟨value, later, ends⟩ := failed.goesOn
      rw [List.append_assoc] at ends
      exact makes value _ ends said c _ later rfl drawn
    | freshId =>
      refine .freshId fun id own => ih id (p.of_ask rfl) (more drawn ?_)
      rintro _ ⟨rfl⟩
      exact own
    | now => exact .now fun time => ih time (p.of_ask rfl) (more drawn nofun)
    | stopwatch => exact .stopwatch fun time => ih time (p.of_ask rfl) (more drawn nofun)
    | note entry => exact .note (ih () (p.of_ask rfl) (more drawn nofun))

theorem parts_made {engine : Engine} {command : Command} (own : ∀ p ∈ command.parts, P p)
    {earlier : List Told} {c : Store.Call} (makes : Scenario.Makes engine command earlier c)
    (drawn : ∀ id, ⟨.freshId, id⟩ ∈ earlier → P (.id id)) : ∀ p ∈ c.parts, P p := by
  have client : P (.id command.client) := by cases command <;> exact own _ List.mem_cons_self
  cases makes with
  | reads | creates => exact List.forall_mem_singleton.mpr client
  | own makes seeks drew =>
    cases makes with
    | addVersion client parent version segment =>
      simp only [Command.parts, Store.Call.parts, List.forall_mem_cons] at own ⊢
      obtain ⟨owner, parent, content, -⟩ := own
      exact ⟨owner, parent, drawn _ (drew _ _ _ _ rfl), content, List.forall_mem_nil _⟩
    | getChildVersion | addSnapshot | getSnapshot => exact own

theorem perform (engine : Engine) {command : Command} (own : ∀ p ∈ command.parts, P p) :
    Brings P (command.perform engine).run := by
  obtain ⟨α, x, value, send, -, performs, -, goes⟩ := Scenario.perform_eq engine command
  have brings : Brings P x.run := by
    refine of_leads goes.leads nofun ?_
    intro result said ended earlier c reply later split
    have regular : ∃ result, Scenario.Regular engine command result said := by
      cases result with
      | ok answer => exact ⟨_, Scenario.Concluded.toRegular ended⟩
      | error failure => exact ⟨_, Scenario.Concluded.toRegular ended⟩
    obtain ⟨_, regular⟩ := regular
    exact parts_made own (regular.makes split)
  rw [performs]
  refine brings.bind ?_
  rintro (failure | answer) <;> exact .done _

theorem logged {request : Request} {goal : App.Destination} {inner : Conversation Response}
    (p : Brings P inner) : Brings P (App.logged request goal inner) := by
  have go (start : Number) (id : String) : Brings P (App.labelled goal inner start id) :=
    p.bind fun response => .stopwatch fun stop => .note (.done _)
  rw [App.logged_eq]
  refine .stopwatch fun start => ?_
  cases App.requestId? request.headers with
  | some id => exact go start id
  | none => exact .freshId fun id _ => go start id

theorem respond (app : App) (request : Request)
    (own : ∀ command, app.asks request = some command → ∀ p ∈ command.parts, P p) :
    Brings P (app.respond request) := by
  have inner : Brings P (app.guarded request (App.destination request)) := by
    rcases App.guarded_cases app request (fun _ => App.isGuarded_destination) with
      ⟨-, response, same, -⟩ | ⟨command, asked, same⟩
    · rw [same]
      exact .done response
    · rw [same]
      refine (perform app.engine (own command asked)).bind ?_
      rintro (failure | response)
      · cases failure with
        | noSuchClient client => exact .done _
        | _ => exact .note (.done _)
      · exact .done _
  exact (logged inner).bind fun response => .done _

theorem converse {around : Surroundings} (drawn : ∀ said, P (.id (around said .freshId)))
    {d : Conversation α} (p : Brings P d) {said : List Told}
    (before : ∀ q ∈ placed said, ∀ part ∈ q.call.parts, P part) :
    ∀ q ∈ placed (TaskSync.converse around d said).2, ∀ part ∈ q.call.parts, P part := by
  have more {said : List Told} (before : ∀ q ∈ placed said, ∀ part ∈ q.call.parts, P part)
      {told : Told} (own : ∀ q ∈ told.placed?.toList, ∀ part ∈ q.call.parts, P part) :
      ∀ q ∈ placed (said ++ [told]), ∀ part ∈ q.call.parts, P part := by
    rw [placed_snoc]
    exact List.forall_mem_append.mpr ⟨before, own⟩
  induction p generalizing said with
  | done value => exact before
  | store own _ ih => exact ih _ (more before (List.forall_mem_singleton.mpr own))
  | freshId _ ih => exact ih _ (drawn said) (more before (List.forall_mem_nil _))
  | now _ ih | stopwatch _ ih => exact ih _ (more before (List.forall_mem_nil _))
  | note _ ih => exact ih (more before (List.forall_mem_nil _))

end Brings

namespace Scenario

open Store
open Http (App Response)

/-! ## Runs -/

namespace Traffic

variable {α : Type} {P : Part → Prop} {start : Backing} {conversations : List (Conversation α)}

theorem brings_turn {t : Traffic α} (held : ∀ p ∈ t.store.parts, P p)
    (brings : ∀ d ∈ t.conversations, Brings P d) (nil : P (.id nilId)) {moment : Moment}
    (drawn : P (.id moment.id)) :
    (∀ p ∈ (t.turn moment).store.parts, P p) ∧ ∀ d ∈ (t.turn moment).conversations, Brings P d := by
  rcases t.turn_cases moment with same | ⟨question, next, hq, more⟩
  · rw [same]
    exact ⟨held, brings⟩
  rw [more]
  have asking := brings _ (List.mem_of_getElem? hq)
  have others {rest : Conversation α} (p : Brings P rest) :
      ∀ d ∈ t.conversations.set moment.request rest, Brings P d := by
    intro d hd
    rcases List.mem_or_eq_of_mem_set hd with hmem | same
    · exact brings d hmem
    · exact same ▸ p
  cases asking with
  | @store c next own h =>
    refine ⟨?_, others (h _)⟩
    unfold Moment.answer
    dsimp only
    split
    · exact held
    · exact Backing.parts_call held nil 0 moment.time own
  | freshId h => exact ⟨held, others (h _ drawn)⟩
  | now h | stopwatch h => exact ⟨held, others (h _)⟩
  | note h => exact ⟨held, others h⟩

theorem parts_run (held : ∀ p ∈ start.parts, P p) (nil : P (.id nilId))
    (brings : ∀ d ∈ conversations, Brings P d) {moments : List Moment}
    (drawn : ∀ moment ∈ moments, P (.id moment.id)) :
    ∀ p ∈ (run start conversations moments).store.parts, P p := by
  suffices both : (∀ p ∈ (run start conversations moments).store.parts, P p) ∧
      ∀ d ∈ (run start conversations moments).conversations, Brings P d from both.1
  induction moments using List.reverseRecOn with
  | nil => exact ⟨held, brings⟩
  | append_singleton moments moment ih =>
    obtain ⟨before, last⟩ := List.forall_mem_append.mp drawn
    obtain ⟨held, brings⟩ := ih before
    rw [run_snoc]
    exact brings_turn held brings nil (last moment (List.mem_singleton_self _))

end Traffic

theorem parts_served {P : Part → Prop} {start : Backing} (held : ∀ p ∈ start.parts, P p)
    (nil : P (.id nilId)) {app : App} {requests : List Http.Request}
    (own : ∀ request ∈ requests, ∀ command, app.asks request = some command →
      ∀ p ∈ command.parts, P p) {moments : List Moment}
    (drawn : ∀ moment ∈ moments, P (.id moment.id)) :
    ∀ p ∈ (served app start requests moments).store.parts, P p :=
  Traffic.parts_run held nil
    (List.forall_mem_map.mpr fun request hrequest =>
      Brings.respond app request (own request hrequest))
    drawn

end Scenario

end TaskSync
