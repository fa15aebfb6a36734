import TaskSync.Proofs.Ledger
import TaskSync.Proofs.Lockstep
import TaskSync.Scenario.Step

/-!
# What an operation attempts

Every operation in every surroundings: each of its calls may be answered with any
value or fail in any way. It looks for its client, makes at most one call of its
own, and stops at the first failure that it is not made for. What an operation
does on a store, in turns or in outages, follows from this.
-/

namespace TaskSync

open Store

/-! ## What is attempted -/

def Http.Command.client : Http.Command → String
  | addVersion client .. | getChildVersion client _ | addSnapshot client .. | getSnapshot client =>
    client

def Engine.enrols (engine : Engine) : Http.Command → Bool
  | .getSnapshot _ => false
  | .addVersion .. | .getChildVersion .. | .addSnapshot .. => engine.createClients

theorem Engine.enrols_eq_false {engine : Engine} {command : Http.Command}
    (off : engine.createClients = false) : engine.enrols command = false := by
  cases command with
  | getSnapshot => rfl
  | addVersion | getChildVersion | addSnapshot => exact off

namespace Scenario

open Http (Command)

/-- What a command has the engine do. -/
def carryOut (engine : Engine) : Command → Operation Value
  | .addVersion client parent segment => .versionAdded <$> engine.addVersion client parent segment
  | .getChildVersion client parent => .child <$> engine.getChildVersion client parent
  | .addSnapshot client version data => .snapshotAdded <$> engine.addSnapshot client version data
  | .getSnapshot client => .snapshotFound <$> engine.getSnapshot client

/-- The calls that look for a client, and what they come to: its record, nothing, or a failure. -/
inductive Seeks (creates : Bool) (client : String) :
    List Placed → Except Failure (Option Client) → Prop where
  | known (record : Client) :
      Seeks creates client [⟨.getClient client, .ok (some record)⟩] (.ok (some record))
  | unread (failure : Failure) :
      Seeks creates client [⟨.getClient client, .error failure⟩] (.error failure)
  | unknown (off : creates = false) :
      Seeks creates client [⟨.getClient client, .ok none⟩] (.ok none)
  | created (on : creates = true) (record : Client) :
      Seeks creates client [⟨.getClient client, .ok none⟩, ⟨.createClient client, .ok record⟩]
        (.ok (some record))
  | uncreated (on : creates = true) {failure : Failure}
      (other : ∀ id, failure ≠ .clientAlreadyExists id) :
      Seeks creates client [⟨.getClient client, .ok none⟩, ⟨.createClient client, .error failure⟩]
        (.error failure)
  /-- The client was created by another in between. -/
  | raced (on : creates = true) (id : String) (record : Client) :
      Seeks creates client [⟨.getClient client, .ok none⟩,
        ⟨.createClient client, .error (.clientAlreadyExists id)⟩,
        ⟨.getClient client, .ok (some record)⟩] (.ok (some record))
  | vanished (on : creates = true) (id : String) :
      Seeks creates client [⟨.getClient client, .ok none⟩,
        ⟨.createClient client, .error (.clientAlreadyExists id)⟩,
        ⟨.getClient client, .ok none⟩] (.error (.clientAlreadyExists id))
  | unreadAgain (on : creates = true) (id : String) (failure : Failure) :
      Seeks creates client [⟨.getClient client, .ok none⟩,
        ⟨.createClient client, .error (.clientAlreadyExists id)⟩,
        ⟨.getClient client, .error failure⟩] (.error failure)

section

variable (engine : Engine)

/-- The call that an operation is there for. There is none for a snapshot of no version. -/
inductive Own : Command → Call → Prop where
  | addVersion (client parent version : String) (segment : Bytes) :
      Own (.addVersion client parent segment) (.addVersion client parent version segment)
  | getChildVersion (client parent : String) :
      Own (.getChildVersion client parent) (.getVersionByParent client parent)
  | addSnapshot (client : String) {version : String} (filled : version ≠ nilId) (data : Bytes) :
      Own (.addSnapshot client version data)
        (.addSnapshot client version data (engine.retention = .pruneOnSnapshot))
  | getSnapshot (client : String) : Own (.getSnapshot client) (.getSnapshot client)

/-- What an operation answers by its client's record and the reply to its own call. -/
inductive Gives (record : Client) : (c : Call) → c.Reply → Value → Prop where
  | added (client parent version : String) (segment : Bytes) (after : Client) (time : Number) :
      Gives record (.addVersion client parent version segment) (.committed after)
        (.versionAdded (.added version (engine.policy.urgencyOf after time)))
  | conflict (client parent version : String) (segment : Bytes) (head : String) :
      Gives record (.addVersion client parent version segment) (.conflict head)
        (.versionAdded (.conflict head))
  | found (client parent : String) (version : Version) :
      Gives record (.getVersionByParent client parent) (some version) (.child (.found version))
  | upToDate (client : String) {parent : String}
      (newest : record.head = parent ∨ record.head = nilId) :
      Gives record (.getVersionByParent client parent) none (.child .upToDate)
  | gone (client : String) {parent : String}
      (older : ¬ (record.head = parent ∨ record.head = nilId)) :
      Gives record (.getVersionByParent client parent) none (.child .gone)
  | accepted (client version : String) (data : Bytes) (prune : Bool) (after : Client) :
      Gives record (.addSnapshot client version data prune) (.accepted after)
        (.snapshotAdded .accepted)
  | rejected (client version : String) (data : Bytes) (prune : Bool) (head : String) :
      Gives record (.addSnapshot client version data prune) (.mismatch head)
        (.snapshotAdded (.rejected head))
  | snapshot (client : String) (snapshot : Option Snapshot) :
      Gives record (.getSnapshot client) snapshot (.snapshotFound snapshot)

/-- All the calls of an operation, with its end. -/
inductive Attempts (command : Command) : List Placed → Result → Prop where
  /-- Nothing comes after a failure to find the client. -/
  | halted {calls : List Placed} {failure : Failure}
      (seeks : Seeks (engine.enrols command) command.client calls (.error failure)) :
      Attempts command calls (.error failure)
  | unknown {calls : List Placed}
      (seeks : Seeks (engine.enrols command) command.client calls (.ok none))
      (refused : engine.createClients = false) :
      Attempts command calls (.error (.noSuchClient command.client))
  /-- Where clients are created, a new one has no snapshot. -/
  | nothing {calls : List Placed}
      (seeks : Seeks (engine.enrols command) command.client calls (.ok none))
      (reads : command = .getSnapshot command.client) (creates : engine.createClients = true) :
      Attempts command calls (.ok (.snapshotFound none))
  | ofNothing {calls : List Placed} {record : Client}
      (seeks : Seeks (engine.enrols command) command.client calls (.ok (some record)))
      {data : Bytes} (empty : command = .addSnapshot command.client nilId data) :
      Attempts command calls (.ok (.snapshotAdded (.rejected record.head)))
  | failed {calls : List Placed} {record : Client}
      (seeks : Seeks (engine.enrols command) command.client calls (.ok (some record)))
      {c : Call} (own : Own engine command c) (failure : Failure) :
      Attempts command (calls ++ [⟨c, .error failure⟩]) (.error failure)
  | answered {calls : List Placed} {record : Client}
      (seeks : Seeks (engine.enrols command) command.client calls (.ok (some record)))
      {c : Call} (own : Own engine command c) {reply : c.Reply} {value : Value}
      (gives : Gives engine record c reply value) :
      Attempts command (calls ++ [⟨c, .ok reply⟩]) (.ok value)

end

/-! ## The calls -/

def looksUp : Call → Bool
  | .getClient _ | .createClient _ => true
  | .getVersionByParent .. | .addVersion .. | .addSnapshot .. | .getSnapshot _ => false

variable {engine : Engine} {command : Command} {creates : Bool} {client : String}
  {calls : List Placed} {result : Result} {found : Except Failure (Option Client)}
  {said : List Told}

theorem Own.about {c : Call} (own : Own engine command c) : c.client = command.client := by
  cases own <;> rfl

theorem Own.not_create {c : Call} (own : Own engine command c) (client : String) :
    c ≠ .createClient client := by
  rintro rfl
  cases own

theorem Seeks.call_eq (seeks : Seeks creates client calls found) :
    ∀ p ∈ calls, p.call = .getClient client ∨ (creates = true ∧ p.call = .createClient client) := by
  cases seeks <;> simp [*]

theorem Seeks.looks (seeks : Seeks creates client calls found) :
    ∀ p ∈ calls, looksUp p.call = true := by
  intro p hp
  rcases seeks.call_eq p hp with looks | ⟨-, looks⟩ <;> rw [looks] <;> rfl

theorem Attempts.calls_eq (attempts : Attempts engine command calls result) :
    (∃ found, Seeks (engine.enrols command) command.client calls found) ∨
      ∃ sought record p, calls = sought ++ [p] ∧ Own engine command p.call ∧
        Seeks (engine.enrols command) command.client sought (.ok (some record)) := by
  cases attempts with
  | halted seeks | unknown seeks | nothing seeks | ofNothing seeks => exact .inl ⟨_, seeks⟩
  | failed seeks own | answered seeks own => exact .inr ⟨_, _, _, rfl, own, seeks⟩

/-- What holds of all calls that an operation can make, holds of all that it makes. -/
theorem Attempts.forall_calls {P : Call → Prop} (attempts : Attempts engine command calls result)
    (read : P (.getClient command.client))
    (create : engine.enrols command = true → P (.createClient command.client))
    (own : ∀ c, Own engine command c → P c) : ∀ p ∈ calls, P p.call := by
  have sought {found : Except Failure (Option Client)} {sought : List Placed}
      (seeks : Seeks (engine.enrols command) command.client sought found) :
      ∀ p ∈ sought, P p.call := by
    intro p hp
    rcases seeks.call_eq p hp with looks | ⟨on, looks⟩
    · exact looks ▸ read
    · exact looks ▸ create on
  rcases attempts.calls_eq with ⟨found, seeks⟩ | ⟨before, record, p, rfl, made, seeks⟩
  · exact sought seeks
  · exact List.forall_mem_append.mpr ⟨sought seeks, List.forall_mem_singleton.mpr (own _ made)⟩

/-! ## What is drawn -/

def Undrawn (said : List Told) : Prop := ∀ told ∈ said, told.question ≠ .freshId

/-- Ids were drawn only when the calls before had come to the client's record. -/
def DrawsLast (creates : Bool) (client : String) (said : List Told) : Prop :=
  ∀ earlier id later, said = earlier ++ ⟨.freshId, id⟩ :: later →
    ∃ record, Seeks creates client (placed earlier) (.ok (some record))

/-- The id of a version that is to be added was drawn. -/
def Drew (said : List Told) (c : Call) : Prop :=
  ∀ client parent version segment, c = .addVersion client parent version segment →
    ⟨.freshId, version⟩ ∈ said

/-- Every version was added under an id that had been drawn. -/
def DrawsFirst (said : List Told) : Prop :=
  ∀ earlier c reply later, said = earlier ++ ⟨.store c, reply⟩ :: later → Drew earlier c

theorem Undrawn.snoc (undrawn : Undrawn said) {told : Told} (other : told.question ≠ .freshId) :
    Undrawn (said ++ [told]) := by
  intro t ht
  rcases List.mem_append.mp ht with ht | ht
  · exact undrawn t ht
  · obtain rfl := List.mem_singleton.mp ht
    exact other

theorem Undrawn.one (c : Call) (reply : Except Failure c.Reply) : Undrawn [⟨.store c, reply⟩] := by
  intro told ht
  obtain rfl := List.mem_singleton.mp ht
  nofun

theorem Undrawn.drawsLast (undrawn : Undrawn said) : DrawsLast creates client said := by
  rintro earlier id later rfl
  exact absurd rfl (undrawn ⟨.freshId, id⟩ (by simp))

theorem DrawsLast.snoc (last : DrawsLast creates client said) {told : Told}
    (other : told.question ≠ .freshId) : DrawsLast creates client (said ++ [told]) := by
  intro earlier id later split
  rcases snoc_eq_split split with ⟨-, rfl⟩ | ⟨rest, split⟩
  · exact absurd rfl other
  · exact last earlier id rest split

theorem Undrawn.draw (undrawn : Undrawn said) {record : Client}
    (seeks : Seeks creates client (placed said) (.ok (some record))) (id : String) :
    DrawsLast creates client (said ++ [⟨.freshId, id⟩]) := by
  intro earlier id' later split
  rcases snoc_eq_split split with ⟨rfl, -⟩ | ⟨rest, split⟩
  · exact ⟨record, seeks⟩
  · exact undrawn.drawsLast earlier id' rest split

theorem DrawsFirst.snoc (first : DrawsFirst said) {told : Told}
    (drew : ∀ c, told.question = .store c → Drew said c) : DrawsFirst (said ++ [told]) := by
  intro earlier c reply later split
  rcases snoc_eq_split split with ⟨rfl, rfl⟩ | ⟨rest, split⟩
  · exact drew c rfl
  · exact first earlier c reply rest split

theorem Seeks.drawsFirst (seeks : Seeks creates client (placed said) found) : DrawsFirst said := by
  rintro earlier c reply later rfl _ _ _ _ rfl
  cases seeks.looks _ (mem_placed (List.mem_append_right _ List.mem_cons_self))

/-! ## One spec for each operation -/

/-- A version was committed for a client, then the time was read, and the urgency follows from
both. -/
def Reckoned (policy : SnapshotPolicy) (client : String) (urgency : Urgency) (known : List Told) :
    Prop :=
  ∃ before parent version segment record now,
    known = before ++ [.commit client parent version segment record, ⟨.now, now⟩] ∧
    urgency = policy.urgencyOf record now

/-- The calls of an operation fit its end, and ids are drawn where they are needed. -/
structure Regular (engine : Engine) (command : Command) (result : Result) (said : List Told) :
    Prop where
  attempts : Attempts engine command (placed said) result
  last : DrawsLast (engine.enrols command) command.client said
  first : DrawsFirst said

/-- How an operation ends, with all that was said. -/
structure Concluded (engine : Engine) (command : Command) (result : Result) (said : List Told) :
    Prop extends Regular engine command result said where
  reckoned : ∀ version urgency, result = .ok (.versionAdded (.added version urgency)) →
    Reckoned engine.policy command.client urgency (heard said)

/-- An operation has failed to find its client. -/
inductive Strays (engine : Engine) (client : String) : Failure → List Told → Prop where
  | halted {said : List Told} {failure : Failure} (undrawn : Undrawn said)
      (seeks : Seeks engine.createClients client (placed said) (.error failure)) :
      Strays engine client failure said
  | unknown {said : List Told} (undrawn : Undrawn said)
      (seeks : Seeks engine.createClients client (placed said) (.ok none))
      (refused : engine.createClients = false) : Strays engine client (.noSuchClient client) said

/-- An operation has found its client, and has done nothing else. -/
structure Meets (engine : Engine) (client : String) (record : Client) (said : List Told) :
    Prop where
  undrawn : Undrawn said
  seeks : Seeks engine.createClients client (placed said) (.ok (some record))

/-- An operation has found its client, and its own call is next. -/
structure Ready (engine : Engine) (command : Command) (record : Client) (said : List Told) :
    Prop where
  seeks : Seeks (engine.enrols command) command.client (placed said) (.ok (some record))
  last : DrawsLast (engine.enrols command) command.client said

section

variable {record : Client}

theorem Strays.concluded {failure : Failure} (strays : Strays engine command.client failure said)
    (writes : engine.enrols command = engine.createClients) :
    Concluded engine command (.error failure) said := by
  cases strays with
  | halted undrawn seeks =>
    rw [← writes] at seeks
    exact ⟨⟨.halted seeks, undrawn.drawsLast, seeks.drawsFirst⟩, nofun⟩
  | unknown undrawn seeks refused =>
    rw [← writes] at seeks
    exact ⟨⟨.unknown seeks refused, undrawn.drawsLast, seeks.drawsFirst⟩, nofun⟩

theorem Meets.ready (meets : Meets engine command.client record said)
    (writes : engine.enrols command = engine.createClients) :
    Ready engine command record said := by
  obtain ⟨undrawn, seeks⟩ := meets
  rw [← writes] at seeks
  exact ⟨seeks, undrawn.drawsLast⟩

theorem Meets.draw (meets : Meets engine command.client record said)
    (writes : engine.enrols command = engine.createClients) (id : String) :
    Ready engine command record (said ++ [⟨.freshId, id⟩]) := by
  obtain ⟨undrawn, seeks⟩ := meets
  rw [← writes] at seeks
  refine ⟨?_, undrawn.draw seeks id⟩
  rw [placed_snoc]
  simpa [Told.placed?] using seeks

theorem Ready.failed (ready : Ready engine command record said) {c : Call}
    (own : Own engine command c) (drew : Drew said c) (failure : Failure) :
    Concluded engine command (.error failure) (said ++ [⟨.store c, .error failure⟩]) := by
  refine ⟨⟨?_, ready.last.snoc nofun, ready.seeks.drawsFirst.snoc ?_⟩, nofun⟩
  · rw [placed_snoc]
    exact .failed ready.seeks own failure
  · rintro _ ⟨rfl⟩
    exact drew

theorem Ready.answered (ready : Ready engine command record said) {c : Call}
    (own : Own engine command c) (drew : Drew said c) {reply : c.Reply} {value : Value}
    (gives : Gives engine record c reply value) :
    Regular engine command (.ok value) (said ++ [⟨.store c, .ok reply⟩]) := by
  refine ⟨?_, ready.last.snoc nofun, ready.seeks.drawsFirst.snoc ?_⟩
  · rw [placed_snoc]
    exact .answered ready.seeks own gives
  · rintro _ ⟨rfl⟩
    exact drew

theorem Regular.snoc (regular : Regular engine command result said) {told : Told}
    (call : ∀ c, told.question ≠ .store c) (draw : told.question ≠ .freshId) :
    Regular engine command result (said ++ [told]) := by
  refine ⟨?_, regular.last.snoc draw, regular.first.snoc fun c store => absurd store (call c)⟩
  rw [placed_snoc, Told.placed?_eq_none call, Option.toList_none, List.append_nil]
  exact regular.attempts

theorem Concluded.note (concluded : Concluded engine command result said) (entry : Journal.Entry) :
    Concluded engine command result (said ++ [⟨.note entry, ()⟩]) := by
  refine ⟨concluded.toRegular.snoc nofun nofun, ?_⟩
  rw [heard_snoc]
  exact concluded.reckoned

/-- A call that an operation may make after some was said: one that looks for its client, or its
own when the client was found. -/
inductive Makes (engine : Engine) (command : Command) (said : List Told) : Call → Prop where
  | reads : Makes engine command said (.getClient command.client)
  | creates (on : engine.enrols command = true) :
      Makes engine command said (.createClient command.client)
  | own {c : Call} (own : Own engine command c) {record : Client}
      (seeks : Seeks (engine.enrols command) command.client (placed said) (.ok (some record)))
      (drew : Drew said c) : Makes engine command said c

theorem Regular.makes (regular : Regular engine command result said) {earlier later : List Told}
    {c : Call} {reply : Except Failure c.Reply}
    (split : said = earlier ++ ⟨.store c, reply⟩ :: later) : Makes engine command earlier c := by
  have calls : placed said = placed earlier ++ ⟨c, reply⟩ :: placed later := by
    rw [split, placed_append]
    rfl
  have looks {found : Except Failure (Option Client)} {sought : List Placed}
      (seeks : Seeks (engine.enrols command) command.client sought found)
      (mem : ⟨c, reply⟩ ∈ sought) : Makes engine command earlier c := by
    rcases seeks.call_eq _ mem with rfl | ⟨on, rfl⟩
    · exact .reads
    · exact .creates on
  rcases regular.attempts.calls_eq with ⟨found, seeks⟩ | ⟨sought, record, p, more, own, seeks⟩
  · exact looks seeks (by simp [calls])
  · rw [more] at calls
    rcases snoc_eq_split calls with ⟨rfl, rfl⟩ | ⟨rest, rfl⟩
    · exact .own own seeks (regular.first _ _ _ _ split)
    · exact looks seeks (by simp)

end

-- This is the one place where the operations are gone through. All else about them, with stores,
-- turns, outages or two surroundings that fail alike, comes from what they attempt.
namespace Attempting

open Abreast (Goes andThen attempt call freshId now note map returns throws)

variable (engine : Engine) (client : String)

theorem ensureClient :
    Goes (engine.ensureClient client) (Outcome (Strays engine client) (Meets engine client))
      [] := by
  have one := Undrawn.one (.getClient client)
  have two (first : Except Failure (Option Client)) (reply : Except Failure Client) :
      Undrawn ([⟨.store (.getClient client), first⟩] ++ [⟨.store (.createClient client), reply⟩]) :=
    (one first).snoc nofun
  unfold Engine.ensureClient
  refine andThen (call (fun failure => .halted (one _) (.unread failure)) ?_)
  rintro (_ | record)
  · cases creates : engine.createClients with
    | false => exact throws rfl (.unknown (one _) (.unknown creates) creates)
    | true =>
      refine attempt ?_
      rintro _ _ (record | @⟨failure, failure', same⟩)
      · refine andThen (note (returns ?_))
        exact ⟨(two _ _).snoc nofun, .created creates record⟩
      cases failure with
      | clientAlreadyExists id =>
        obtain ⟨id', rfl⟩ := Failure.role_eq_clientAlreadyExists.mp same.symm
        refine andThen (call (fun failure => ?_) ?_)
        · exact .halted ((two _ _).snoc nofun) (.unreadAgain creates id failure)
        · rintro (_ | record)
          · exact throws rfl (.halted ((two _ _).snoc nofun) (.vanished creates id))
          · exact returns ⟨(two _ _).snoc nofun, .raced creates id record⟩
      | _ =>
        cases failure' <;> first
          | exact throws same (.halted (two _ _) (.uncreated creates nofun))
          | cases same
  · exact returns ⟨one _, .known record⟩

def Ended {α : Type} (command : Command) (value : α → Value) :
    Except Failure α → List Told → Prop :=
  Outcome (fun failure => Concluded engine command (.error failure)) fun answer =>
    Concluded engine command (.ok (value answer))

theorem seeking {α : Type} {value : α → Value} (command : Command)
    (writes : engine.enrols command = engine.createClients) {next : Client → Operation α}
    (p : ∀ record said, Meets engine command.client record said →
      Goes (next record) (Ended engine command value) said) :
    Goes (engine.ensureClient command.client >>= next) (Ended engine command value) [] := by
  refine andThen ((ensureClient engine command.client).mono ?_)
  rintro (failure | record) said met
  · have strays : Strays engine command.client failure said := met
    exact strays.concluded writes
  · exact p record said met

theorem getChildVersion (parent : String) :
    Goes (engine.getChildVersion client parent)
      (Ended engine (.getChildVersion client parent) .child) [] := by
  unfold Engine.getChildVersion
  refine seeking engine (.getChildVersion client parent) rfl fun record said met => ?_
  have ready := met.ready rfl
  have own : Own engine (.getChildVersion client parent) _ := .getChildVersion client parent
  refine andThen (call (ready.failed own nofun) ?_)
  rintro (_ | version)
  · dsimp only
    split
    · next newest => exact returns ⟨ready.answered own nofun (.upToDate client newest), nofun⟩
    · next older => exact returns ⟨ready.answered own nofun (.gone client older), nofun⟩
  · exact returns ⟨ready.answered own nofun (.found client parent version), nofun⟩

theorem addVersion (parent : String) (segment : Bytes) :
    Goes (engine.addVersion client parent segment)
      (Ended engine (.addVersion client parent segment) .versionAdded) [] := by
  unfold Engine.addVersion
  refine seeking engine (.addVersion client parent segment) rfl fun record said met => ?_
  refine andThen (freshId fun version => ?_)
  have ready := met.draw rfl version
  have own : Own engine (.addVersion client parent segment) _ :=
    .addVersion client parent version segment
  have drew : Drew (said ++ [⟨.freshId, version⟩]) (.addVersion client parent version segment) := by
    rintro _ _ _ _ ⟨rfl⟩
    exact List.mem_append_right _ (List.mem_singleton_self _)
  refine andThen (call (ready.failed own drew) ?_)
  intro reply
  cases reply with
  | committed after =>
    refine andThen (now fun time => andThen (note (returns ?_)))
    have added := ready.answered own drew (.added client parent version segment after time)
    have timed : Regular engine _ _ (_ ++ [⟨.now, time⟩]) := added.snoc nofun nofun
    refine Concluded.note ⟨timed, ?_⟩ _
    rintro _ _ ⟨rfl⟩
    rw [heard_snoc, heard_snoc]
    exact ⟨_, parent, version, segment, after, time, List.append_assoc .., rfl⟩
  | conflict head =>
    have conflict := ready.answered own drew (.conflict client parent version segment head)
    exact andThen (note (returns (Concluded.note ⟨conflict, nofun⟩ _)))

theorem addSnapshot (version : String) (data : Bytes) :
    Goes (engine.addSnapshot client version data)
      (Ended engine (.addSnapshot client version data) .snapshotAdded) [] := by
  unfold Engine.addSnapshot
  refine seeking engine (.addSnapshot client version data) rfl fun record said met => ?_
  have ready := met.ready rfl
  by_cases empty : version = nilId
  · subst empty
    have rejected : Concluded engine (.addSnapshot client nilId data)
        (.ok (.snapshotAdded (.rejected record.head))) said :=
      ⟨⟨.ofNothing ready.seeks rfl, ready.last, ready.seeks.drawsFirst⟩, nofun⟩
    simp only [if_true]
    exact andThen (note (returns (rejected.note _)))
  · have own : Own engine (.addSnapshot client version data) _ := .addSnapshot client empty data
    simp only [if_neg empty]
    refine andThen (call (ready.failed own nofun) ?_)
    intro reply
    cases reply with
    | accepted after =>
      have accepted := ready.answered own nofun (.accepted client version data _ after)
      exact andThen (note (returns (Concluded.note ⟨accepted, nofun⟩ _)))
    | mismatch head =>
      have rejected := ready.answered own nofun (.rejected client version data _ head)
      exact andThen (note (returns (Concluded.note ⟨rejected, nofun⟩ _)))

theorem getSnapshot :
    Goes (engine.getSnapshot client) (Ended engine (.getSnapshot client) .snapshotFound)
      [] := by
  have one {reply : Except Failure (Option Client)} {found : Except Failure (Option Client)}
      {result : Result} (seeks : Seeks false client [⟨.getClient client, reply⟩] found)
      (attempts : Attempts engine (.getSnapshot client) [⟨.getClient client, reply⟩] result) :
      Regular engine (.getSnapshot client) result [⟨.store (.getClient client), reply⟩] :=
    ⟨attempts, (Undrawn.one (.getClient client) reply).drawsLast, Seeks.drawsFirst seeks⟩
  unfold Engine.getSnapshot
  refine andThen (call (fun failure => ?_) ?_)
  · have unread : Seeks false client _ _ := .unread failure
    exact ⟨one unread (.halted unread), nofun⟩
  rintro (_ | record)
  · have unknown : Seeks false client _ _ := .unknown rfl
    cases creates : engine.createClients with
    | false => exact throws rfl ⟨one unknown (.unknown unknown creates), nofun⟩
    | true => exact returns ⟨one unknown (.nothing unknown rfl creates), nofun⟩
  · have ready : Ready engine (.getSnapshot client) record
        [⟨.store (.getClient client), .ok (some record)⟩] :=
      ⟨.known record, (Undrawn.one (.getClient client) _).drawsLast⟩
    exact call (ready.failed (.getSnapshot client) nofun) fun found =>
      ⟨ready.answered (.getSnapshot client) nofun (.snapshot client found), nofun⟩

theorem goes (command : Command) :
    Goes (Scenario.carryOut engine command) (Concluded engine command) [] := by
  have ended {α : Type} {value : α → Value} {operation : Operation α}
      (p : Goes operation (Ended engine command value) []) :
      Goes (value <$> operation) (Concluded engine command) [] := by
    have mapped : Goes (value <$> operation) (Ended engine command id) [] := map p
    refine mapped.mono ?_
    rintro (failure | answer) said ended
    · exact ended
    · exact ended
  cases command with
  | addVersion client parent segment => exact ended (addVersion engine client parent segment)
  | getChildVersion client parent => exact ended (getChildVersion engine client parent)
  | addSnapshot client version data => exact ended (addSnapshot engine client version data)
  | getSnapshot client => exact ended (getSnapshot engine client)

theorem carryOut (command : Command) :
    Leads Speaks (Concluded engine command) (Scenario.carryOut engine command).run [] :=
  (goes engine command).leads

end Attempting

/-! ## No retries, and nothing hidden -/

/-- A call after which an operation may go on: if it failed, another has just created the client. -/
def Passes (client : String) (p : Placed) : Prop :=
  ∀ failure, p.reply = .error failure →
    p.call = .createClient client ∧ ∃ id, failure = .clientAlreadyExists id

theorem Seeks.last (seeks : Seeks creates client calls found) :
    ∃ before last, calls = before ++ [last] ∧ (∀ p ∈ before, Passes client p) ∧
      ∀ failure, last.reply = .error failure → found = .error failure := by
  have absent : Passes client ⟨.getClient client, .ok none⟩ := nofun
  have alone : ∀ p ∈ [(⟨.getClient client, .ok none⟩ : Placed)], Passes client p :=
    List.forall_mem_singleton.mpr absent
  have race (id : String) : ∀ p ∈ [(⟨.getClient client, .ok none⟩ : Placed),
      ⟨.createClient client, .error (.clientAlreadyExists id)⟩], Passes client p := by
    refine List.forall_mem_cons.mpr ⟨absent, List.forall_mem_singleton.mpr ?_⟩
    rintro _ ⟨rfl⟩
    exact ⟨rfl, id, rfl⟩
  have same {Reply : Type} {failure other : Failure}
      (failed : (.error failure : Except Failure Reply) = .error other) :
      (.error failure : Except Failure (Option Client)) = .error other :=
    congrArg Except.error (Except.error.inj failed)
  cases seeks with
  | known record => exact ⟨[], _, rfl, List.forall_mem_nil _, nofun⟩
  | unread failure => exact ⟨[], _, rfl, List.forall_mem_nil _, fun _ => same⟩
  | unknown off => exact ⟨[], _, rfl, List.forall_mem_nil _, nofun⟩
  | created on record => exact ⟨_, _, rfl, alone, nofun⟩
  | uncreated on other => exact ⟨_, _, rfl, alone, fun _ => same⟩
  | raced on id record => exact ⟨_, _, rfl, race id, nofun⟩
  | vanished on id => exact ⟨_, _, rfl, race id, nofun⟩
  | unreadAgain on id failure => exact ⟨_, _, rfl, race id, fun _ => same⟩

theorem Attempts.last (attempts : Attempts engine command calls result) :
    ∃ before last, calls = before ++ [last] ∧ (∀ p ∈ before, Passes command.client p) ∧
      ∀ failure, last.reply = .error failure → result = .error failure := by
  -- If the client was found, no call that looks for it failed for good.
  have pass {calls : List Placed} {record : Client}
      (seeks : Seeks (engine.enrols command) command.client calls (.ok (some record))) :
      ∀ p ∈ calls, Passes command.client p := by
    obtain ⟨before, last, rfl, pass, fails⟩ := seeks.last
    refine List.forall_mem_append.mpr ⟨pass, ?_⟩
    rintro p hp failure failed
    obtain rfl := List.mem_singleton.mp hp
    cases fails failure failed
  cases attempts with
  | halted seeks =>
    obtain ⟨before, last, rfl, pass, fails⟩ := seeks.last
    exact ⟨before, last, rfl, pass, fun failure failed => by cases fails failure failed; rfl⟩
  | unknown seeks | nothing seeks | ofNothing seeks =>
    obtain ⟨before, last, rfl, pass, fails⟩ := seeks.last
    exact ⟨before, last, rfl, pass, fun failure failed => by cases fails failure failed⟩
  | failed seeks own failure => exact ⟨_, _, rfl, pass seeks, fun _ failed => by cases failed; rfl⟩
  | answered seeks own gives => exact ⟨_, _, rfl, pass seeks, nofun⟩

theorem Attempts.vanished (attempts : Attempts engine command calls result) {id : String}
    (gone : calls = [⟨.getClient command.client, .ok none⟩,
      ⟨.createClient command.client, .error (.clientAlreadyExists id)⟩,
      ⟨.getClient command.client, .ok none⟩]) : result = .error (.clientAlreadyExists id) := by
  cases attempts with
  | halted seeks =>
    subst gone
    cases seeks
    rfl
  | unknown seeks | nothing seeks | ofNothing seeks =>
    subst gone
    cases seeks
  | failed seeks | answered seeks =>
    have split : _ ++ [_] = ([⟨.getClient command.client, .ok none⟩,
        ⟨.createClient command.client, .error (.clientAlreadyExists id)⟩] : List Placed) ++ [_] :=
      gone
    obtain ⟨rfl, -⟩ := List.append_inj' split rfl
    cases seeks

theorem Attempts.once (attempts : Attempts engine command calls result) :
    calls.countP (fun p => !looksUp p.call) ≤ 1 := by
  have none {sought : List Placed} {found : Except Failure (Option Client)}
      (seeks : Seeks (engine.enrols command) command.client sought found) :
      sought.countP (fun p => !looksUp p.call) = 0 := by
    rw [List.countP_eq_zero]
    intro p hp
    simp [seeks.looks p hp]
  rcases attempts.calls_eq with ⟨found, seeks⟩ | ⟨sought, record, p, rfl, own, seeks⟩
  · rw [none seeks]
    exact Nat.zero_le 1
  · rw [List.countP_append, none seeks, Nat.zero_add]
    exact List.countP_le_length

theorem Attempts.reads (attempts : Attempts engine (.getSnapshot client) calls result) :
    ∀ p ∈ calls, ∀ other, p.call ≠ .createClient other :=
  attempts.forall_calls (P := fun c => ∀ other, c ≠ .createClient other) nofun nofun
    (by rintro _ ⟨⟩ other; nofun)

/-- What an operation has attempted, in surroundings of any kind. -/
structure Straightforward (engine : Engine) (command : Command) (said : List Told)
    (result : Result) : Prop where
  /-- It looked for its client, made its own call if it found one, and ended by the replies. -/
  attempts : Attempts engine command (placed said) result
  /-- A version id was drawn only when the client was found. -/
  draws : DrawsLast (engine.enrols command) command.client said
  /-- A call that failed was the last one, and its failure is the operation's. The one exception
  is a client that another has created in between. -/
  fails : ∀ earlier c failure later, placed said = earlier ++ ⟨c, .error failure⟩ :: later →
    (later = [] ∧ result = .error failure) ∨
      c = .createClient command.client ∧ ∃ id, failure = .clientAlreadyExists id
  /-- If that client is gone again, this is what the operation fails with. -/
  vanishes : ∀ id, placed said = [⟨.getClient command.client, .ok none⟩,
      ⟨.createClient command.client, .error (.clientAlreadyExists id)⟩,
      ⟨.getClient command.client, .ok none⟩] → result = .error (.clientAlreadyExists id)
  /-- Nothing but the client's record was asked for twice. -/
  once : (placed said).countP (fun p => !looksUp p.call) ≤ 1
  reads : ∀ client, command = .getSnapshot client → ∀ p ∈ placed said, ∀ other,
    p.call ≠ .createClient other

/-- **No retries, and nothing hidden.** However the store behaves at each call, an operation makes
its calls in order, its own at most once, and ends with the first failure that it meets. -/
theorem never_retries (engine : Engine) (command : Command) (around : Surroundings) :
    Straightforward engine command (converse around (carryOut engine command).run []).2
      (converse around (carryOut engine command).run []).1 := by
  obtain ⟨⟨attempts, draws, -⟩, -⟩ := (Attempting.carryOut engine command).converse around
  generalize converse around (carryOut engine command).run [] = ended at attempts draws ⊢
  constructor
  case attempts => exact attempts
  case draws => exact draws
  case fails =>
    intro earlier c failure later split
    obtain ⟨before, last, hplaced, pass, fails⟩ := attempts.last
    rw [hplaced] at split
    rcases snoc_eq_split split with ⟨rfl, rfl⟩ | ⟨rest, rfl⟩
    · have none : later = [] := by simpa using split
      exact .inl ⟨none, fails failure rfl⟩
    · exact .inr (pass ⟨c, .error failure⟩ (by simp) failure rfl)
  case vanishes => exact fun id gone => attempts.vanished gone
  case once => exact attempts.once
  case reads =>
    rintro client rfl
    exact attempts.reads

end Scenario

end TaskSync
