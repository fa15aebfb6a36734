import TaskSync.Proofs.Promises

/-!
# What conversations yield

What a command comes to, and which calls are made for it, when these are answered
by the ledgers and nothing comes in between. Ids and clocks may be anything. A
request writes at most once, and then as its last call.
-/

namespace TaskSync.Scenario

open Store
open Http (Command)

/-- The answer to a question by the ledgers, with the calls made for it. -/
inductive Due (stamp : Number → Option Number) (h : History) :
    (question : Ask) → question.Answer → History → Prop where
  | store (time : Number) (c : Call) :
      Due stamp h (.store c) ((ledger c.client h).answer stamp time c)
        [⟨time, c, (ledger c.client h).answer stamp time c⟩]
  | freshId (id : String) : Due stamp h .freshId id []
  | now (time : Number) : Due stamp h .now time []
  | stopwatch (time : Number) : Due stamp h .stopwatch time []
  | note (entry : Journal.Entry) : Due stamp h (.note entry) () []

/-- One more question is answered by the ledgers. -/
def Steps (stamp : Number → Option Number) (h : History) (question : Ask)
    (answer : question.Answer) (after : History) : Prop :=
  ∃ calls, Due stamp h question answer calls ∧ after = h ++ calls

theorem Steps.callsOnly {stamp : Number → Option Number} : CallsOnly (Steps stamp) := by
  rintro h question answer after ⟨calls, due, rfl⟩ other
  cases due with
  | store time c => exact absurd rfl (other c)
  | freshId | now | stopwatch | note => exact List.append_nil h

/-! ## Calls that write nothing -/

/-- The calls made in between wrote nothing. -/
def Quiet (h h' : History) : Prop :=
  ∃ calls, h' = h ++ calls ∧ ∀ e ∈ calls, ∀ client, e.version? client = none ∧
    e.snapshot? client = none

namespace Quiet

variable {h h' h'' : History}

theorem refl (h : History) : Quiet h h := ⟨[], by simp, by simp⟩

theorem isPrefix (quiet : Quiet h h') : h <+: h' := by
  obtain ⟨calls, rfl, -⟩ := quiet
  exact List.prefix_append ..

theorem snoc (quiet : Quiet h h') {e : Answered}
    (he : ∀ client, e.version? client = none ∧ e.snapshot? client = none) :
    Quiet h (h' ++ [e]) := by
  obtain ⟨calls, rfl, hcalls⟩ := quiet
  refine ⟨calls ++ [e], List.append_assoc .., ?_⟩
  exact List.forall_mem_append.mpr ⟨hcalls, List.forall_mem_singleton.mpr he⟩

theorem versions (quiet : Quiet h h') (client : String) :
    (ledger client h').versions = (ledger client h).versions := by
  obtain ⟨calls, rfl, hcalls⟩ := quiet
  rw [ledger_versions, ledger_versions, List.filterMap_append]
  rw [List.filterMap_eq_nil_iff.mpr fun e he => (hcalls e he client).1, List.append_nil]

theorem head (quiet : Quiet h h') (client : String) :
    (ledger client h').head = (ledger client h).head := by
  simp only [Ledger.head, quiet.versions]

theorem snapshots (quiet : Quiet h h') (client : String) :
    (ledger client h').pruned = (ledger client h).pruned ∧
      (ledger client h').taken = (ledger client h).taken := by
  obtain ⟨calls, rfl, hcalls⟩ := quiet
  induction calls using List.reverseRecOn with
  | nil => simp only [List.append_nil, and_self]
  | append_singleton calls e ih =>
    have none := (hcalls e (by simp) client).2
    rw [← List.append_assoc, ledger_pruned_snoc, ledger_taken_snoc, Answered.not_prunes none, none]
    exact ih fun e he => hcalls e (List.mem_append_left _ he)

theorem child? (quiet : Quiet h h') (client parent : String) :
    (ledger client h').child? parent = (ledger client h).child? parent := by
  simp only [Ledger.child?, Ledger.kept, quiet.versions, (quiet.snapshots client).1]

end Quiet

/-! ## Finding the client -/

section

variable {stamp : Number → Option Number} {h h' : History} {creates : Bool} {client : String}
  {calls : List Placed}

theorem Steps.called {c : Call} {reply : Except Failure c.Reply}
    (steps : Steps stamp h (.store c) reply h') : ∃ time,
      (ledger c.client h).answer stamp time c = reply ∧ h' = h ++ [⟨time, c, reply⟩] := by
  obtain ⟨made, due, rfl⟩ := steps
  cases due with
  | store time => exact ⟨time, rfl, rfl⟩

theorem Quiet.of_looks {more : History} (looks : ∀ e ∈ more, looksUp e.call = true) (h : History) :
    Quiet h (h ++ more) := by
  refine ⟨more, rfl, fun e he client => ?_⟩
  have looked := looks e he
  obtain ⟨time, c, reply⟩ := e
  cases c with
  | getClient | createClient => exact ⟨rfl, rfl⟩
  | getVersionByParent | addVersion | addSnapshot | getSnapshot => cases looked

theorem looked (looks : ∀ p ∈ calls, looksUp p.call = true)
    (made : Calls (fun h c => Steps stamp h (.store c)) h calls h') (lawful : Lawful stamp h) :
    ∃ more : History, h' = h ++ more ∧ more.map (·.placed) = calls ∧ Lawful stamp h' := by
  induction calls generalizing h with
  | nil => exact ⟨[], by rw [made, List.append_nil], rfl, made ▸ lawful⟩
  | cons p calls ih =>
    obtain ⟨first, rest⟩ := List.forall_mem_cons.mp looks
    obtain ⟨between, taken, made⟩ := made
    obtain ⟨time, answer, rfl⟩ := taken.called
    have fresh : p.call.IsFresh (ledger p.call.client h) := by
      generalize p.call = c at first
      cases c with
      | addVersion => cases first
      | _ => trivial
    have further := Lawful.snoc time p.call lawful fresh
    rw [answer] at further
    obtain ⟨more, rfl, rfl, after⟩ := ih rest made further
    exact ⟨⟨time, p.call, p.reply⟩ :: more, List.append_assoc .., rfl, after⟩

theorem Seeks.entered {record : Client} (seeks : Seeks creates client calls (.ok (some record)))
    (made : Calls (fun h c => Steps stamp h (.store c)) h calls h') (lawful : Lawful stamp h) :
    Quiet h h' ∧ (ledger client h').created = true ∧ record.head = (ledger client h).head := by
  obtain ⟨more, rfl, same, after⟩ := looked seeks.looks made lawful
  have looks (e : Answered) (he : e ∈ more) : looksUp e.call = true :=
    seeks.looks e.placed (same ▸ List.mem_map_of_mem he)
  obtain ⟨before, p, split, tells⟩ := seeks.tells
  rw [split] at same
  obtain ⟨earlier, last, rfl, -, single⟩ := List.map_eq_append_iff.mp same
  obtain ⟨e, rfl, rfl⟩ := List.map_eq_singleton_iff.mp single
  rw [← List.append_assoc] at after
  obtain ⟨head, created⟩ := tells.ensures after
  rw [List.append_assoc] at created
  have quiet := Quiet.of_looks (fun e he => looks e (List.mem_append_left _ he)) h
  exact ⟨.of_looks looks h, created, head.trans (quiet.head client)⟩

theorem Seeks.known_or {record : Client} (seeks : Seeks creates client calls (.ok (some record)))
    (made : Calls (fun h c => Steps stamp h (.store c)) h calls h') :
    (ledger client h).created = true ∨ creates = true := by
  cases seeks with
  | known =>
    obtain ⟨between, taken, -⟩ := made
    obtain ⟨time, answer, -⟩ := taken.called
    exact .inl (Option.ite_none_right_eq_some.mp (Except.ok.inj answer)).1
  | created on | raced on => exact .inr on

theorem Seeks.missed (seeks : Seeks creates client calls (.ok none))
    (made : Calls (fun h c => Steps stamp h (.store c)) h calls h') :
    Quiet h h' ∧ (ledger client h).created = false := by
  cases seeks with
  | unknown off =>
    obtain ⟨between, taken, rfl⟩ := made
    obtain ⟨time, answer, rfl⟩ := taken.called
    refine ⟨.of_looks (List.forall_mem_singleton.mpr rfl) h, ?_⟩
    cases known : (ledger client h).created with
    | false => rfl
    | true => simp [Ledger.answer, Call.client, known] at answer

end

/-! ## What commands come to -/

namespace Settles

/-- What is written for a version that is added, and nothing is for one that is not. -/
inductive Adds (h : History) (client parent : String) (segment : Bytes) :
    AddVersionAnswer → History → Prop where
  | added {h₁ : History} (quiet : Quiet h h₁) (head : (ledger client h).head = parent)
      (time : Number) (version : String) (urgency : Urgency) (record : Client) :
      Adds h client parent segment (.added version urgency)
        (h₁ ++ [⟨time, .addVersion client parent version segment, .ok (.committed record)⟩])
  | conflict {h' : History} (quiet : Quiet h h') (other : (ledger client h).head ≠ parent) :
      Adds h client parent segment (.conflict (ledger client h).head) h'

/-- A snapshot is written by the last call, or none is. -/
inductive Takes (h : History) (client version : String) (data : Bytes) (prune : Bool) :
    History → Prop where
  | accepted {h₁ : History} (quiet : Quiet h h₁) (head : (ledger client h).head = version)
      (time : Number) (record : Client) :
      Takes h client version data prune
        (h₁ ++ [⟨time, .addSnapshot client version data prune, .ok (.accepted record)⟩])
  | rejected {h' : History} (quiet : Quiet h h') : Takes h client version data prune h'

theorem Takes.pruned {h calls : History} {owner version : String} {data : Bytes} {prune : Bool}
    (takes : Takes h owner version data prune (h ++ calls)) (client : String) :
    (ledger client (h ++ calls)).pruned =
        (if prune ∧ calls.any (·.snapshot? client = some ⟨version, data⟩) then
          (ledger client h).versions.length else (ledger client h).pruned) ∧
      (calls.any (·.snapshot? client = some ⟨version, data⟩) →
        version = (ledger client h).head) := by
  have none {quiet : History} (writes : ∀ e ∈ quiet, ∀ client, e.version? client = none ∧
      e.snapshot? client = none) :
      quiet.any (·.snapshot? client = some ⟨version, data⟩) = false := by
    rw [List.any_eq_false]
    intro e he
    simp [(writes e he client).2]
  generalize whole : h ++ calls = h' at takes ⊢
  cases takes with
  | rejected quiet =>
    have same := (quiet.snapshots client).1
    obtain ⟨rest, rfl, writes⟩ := quiet
    obtain rfl := List.append_cancel_left whole
    simp [none writes, same]
  | accepted quiet head time record =>
    have same := (quiet.snapshots client).1
    have versions := quiet.versions client
    obtain ⟨rest, rfl, writes⟩ := quiet
    rw [List.append_assoc] at whole
    obtain rfl := List.append_cancel_left whole
    rw [ledger_pruned_snoc, ← ledger_commits, versions, same, List.any_append, none writes]
    by_cases own : owner = client
    · subst own
      simp [Answered.prunes, Answered.snapshot?, head]
    · simp [Answered.prunes, Answered.snapshot?, own]

end Settles

/-- What a command comes to by the ledgers, and what has been written then. -/
inductive Settles (engine : Engine) (h : History) : Command → Value → History → Prop where
  | addVersion {client parent : String} {segment : Bytes} {answer : AddVersionAnswer} {h' : History}
      (adds : Settles.Adds h client parent segment answer h') :
      Settles engine h (.addVersion client parent segment) (.versionAdded answer) h'
  | getChildVersion {client parent : String} {h' : History} (quiet : Quiet h h') :
      Settles engine h (.getChildVersion client parent)
        (.child ((ledger client h).childAnswer parent)) h'
  | addSnapshot {client version : String} {data : Bytes} {h' : History}
      (takes : Settles.Takes h client version data (engine.retention = .pruneOnSnapshot) h')
      (answer : AddSnapshotAnswer) :
      Settles engine h (.addSnapshot client version data) (.snapshotAdded answer) h'
  | getSnapshot {client : String} {h' : History} (quiet : Quiet h h')
      (known : (ledger client h).created = true ∨ engine.createClients = true) :
      Settles engine h (.getSnapshot client)
        (.snapshotFound ((ledger client h).taken.map fun taken => ⟨taken.version, taken.data⟩)) h'

section

variable {stamp : Number → Option Number} {h h' : History} {engine : Engine} {command : Command}
  {record : Client} {value : Value}

/-- A request fails only if no client may be created and its client is unknown. -/
def Refused (engine : Engine) (h : History) (command : Command) (failure : Failure)
    (h' : History) : Prop :=
  failure = .noSuchClient command.client ∧ engine.createClients = false ∧
    (ledger command.client h).created = false ∧ Quiet h h'

theorem Own.answered {sought : List Placed} {c : Call} {reply : Except Failure c.Reply}
    (own : Own engine command c)
    (seeks : Seeks (engine.enrols command) command.client sought (.ok (some record)))
    (made : Calls (fun h c => Steps stamp h (.store c)) h (sought ++ [⟨c, reply⟩]) h')
    (lawful : Lawful stamp h) :
    ∃ between time, Quiet h between ∧ (ledger c.client between).created = true ∧
      record.head = (ledger c.client h).head ∧
      (ledger c.client between).answer stamp time c = reply ∧
      h' = between ++ [⟨time, c, reply⟩] := by
  obtain ⟨between, looked, last⟩ := Calls.append_iff.mp made
  obtain ⟨after, taken, rfl⟩ := last
  obtain ⟨time, answer, rfl⟩ := taken.called
  obtain ⟨quiet, created, head⟩ := seeks.entered looked lawful
  have same := own.about
  rw [← same] at created head
  exact ⟨between, time, quiet, created, head, answer, rfl⟩

/-- Nothing was written before the own call, so that the head and the versions are those of the
start. -/
theorem Own.settles {c : Call} {reply : c.Reply} (own : Own engine command c)
    (gives : Gives engine record c reply value) {between : History} (quiet : Quiet h between)
    (head : record.head = (ledger c.client h).head)
    (known : (ledger c.client h).created = true ∨ engine.enrols command = true) {time : Number}
    (answer : (ledger c.client between).answer stamp time c = .ok reply) :
    Settles engine h command value (between ++ [⟨time, c, .ok reply⟩]) := by
  cases own with
  | addVersion client parent version segment =>
    cases gives with
    | added =>
      obtain ⟨-, newest⟩ := Ledger.created_of_committed answer
      exact .addVersion (.added quiet ((quiet.head client).symm.trans newest) ..)
    | conflict =>
      obtain ⟨-, other, told⟩ := Ledger.created_of_conflict answer
      have same := quiet.head client
      obtain rfl := told.trans same
      exact .addVersion (.conflict (quiet.snoc fun _ => ⟨rfl, rfl⟩) (same ▸ other))
  | getChildVersion client parent =>
    dsimp only [Call.client] at head
    have child : (ledger client h).child? parent = reply :=
      (quiet.child? client parent).symm.trans (Except.ok.inj answer)
    have settles : Settles engine h (.getChildVersion client parent) _
        (between ++ [⟨time, .getVersionByParent client parent, .ok reply⟩]) :=
      .getChildVersion (quiet.snoc fun _ => ⟨rfl, rfl⟩)
    cases gives with
    | found => rwa [Ledger.childAnswer_of_some child] at settles
    | upToDate _ newest => rwa [Ledger.childAnswer_of_none child, ← head, if_pos newest] at settles
    | gone _ older => rwa [Ledger.childAnswer_of_none child, ← head, if_neg older] at settles
  | @addSnapshot client version filled data =>
    cases gives with
    | accepted =>
      obtain ⟨-, newest⟩ := Ledger.created_of_accepted answer
      exact .addSnapshot (.accepted quiet ((quiet.head client).symm.trans newest) ..) _
    | rejected => exact .addSnapshot (.rejected (quiet.snoc fun _ => ⟨rfl, rfl⟩)) _
  | getSnapshot client =>
    cases gives
    dsimp only [Call.client] at answer
    obtain rfl := (Except.ok.inj answer).symm.trans (by rw [(quiet.snapshots client).2])
    exact .getSnapshot (quiet.snoc fun _ => ⟨rfl, rfl⟩) (known.imp_right nofun)

theorem Attempts.settles {calls : List Placed} {result : Result}
    (attempts : Attempts engine command calls result)
    (made : Calls (fun h c => Steps stamp h (.store c)) h calls h') (lawful : Lawful stamp h) :
    Outcome (Refused engine h command) (Settles engine h command) result h' := by
  cases attempts with
  | halted seeks =>
    obtain ⟨more, rfl, rfl, after⟩ := looked seeks.looks made lawful
    exact (seeks.not_failed after (by simp)).elim
  | unknown seeks refused =>
    obtain ⟨quiet, unknown⟩ := seeks.missed made
    exact ⟨rfl, refused, unknown, quiet⟩
  | nothing seeks reads creates =>
    obtain ⟨quiet, unknown⟩ := seeks.missed made
    have settles : Settles engine h (.getSnapshot command.client) _ h' :=
      .getSnapshot quiet (.inr creates)
    rw [(lawful.sound command.client).uncreated unknown] at settles
    rw [reads]
    exact settles
  | ofNothing seeks empty =>
    obtain ⟨quiet, created, head⟩ := seeks.entered made lawful
    rw [empty]
    exact .addSnapshot (.rejected quiet) _
  | @failed _ _ seeks c own =>
    obtain ⟨between, time, quiet, created, -, answer, rfl⟩ := own.answered seeks made lawful
    obtain ⟨value, answered⟩ := Ledger.answer_of_created created own.not_create stamp time
    cases answer.symm.trans answered
  | answered seeks own gives =>
    obtain ⟨between, time, quiet, created, head, answer, rfl⟩ := own.answered seeks made lawful
    obtain ⟨_, sought, -⟩ := Calls.append_iff.mp made
    have known := seeks.known_or sought
    rw [← own.about] at known
    exact own.settles gives quiet head known answer

/-- What a command comes to when nothing comes in between. -/
theorem carryOut_settles (engine : Engine) (lawful : Lawful stamp h) (command : Command) :
    Leads (Steps stamp) (Outcome (Refused engine h command) (Settles engine h command))
      (carryOut engine command).run h := by
  refine ((Attempting.carryOut engine command).calls Steps.callsOnly h).mono ?_
  rintro result after ⟨said, concluded, made⟩
  exact concluded.attempts.settles made lawful

theorem getChildVersion_settles (engine : Engine) (lawful : Lawful stamp h)
    (client parent : String) :
    Leads (Steps stamp) (Outcome (Refused engine h (.getChildVersion client parent))
        fun answer h' => Quiet h h' ∧ answer = (ledger client h).childAnswer parent)
      (engine.getChildVersion client parent).run h := by
  refine (Leads.of_map (carryOut_settles engine lawful (.getChildVersion client parent))).mono ?_
  rintro (failure | answer) h' ended
  · exact ended
  · have settles : Settles engine h _ (.child answer) h' := ended
    cases settles with
    | getChildVersion quiet => exact ⟨quiet, rfl⟩

theorem addVersion_settles (engine : Engine) (lawful : Lawful stamp h) (client parent : String)
    (segment : Bytes) :
    Leads (Steps stamp) (Outcome (Refused engine h (.addVersion client parent segment))
        (Settles.Adds h client parent segment))
      (engine.addVersion client parent segment).run h := by
  refine (Leads.of_map (carryOut_settles engine lawful (.addVersion client parent segment))).mono ?_
  rintro (failure | answer) h' ended
  · exact ended
  · have settles : Settles engine h _ (.versionAdded answer) h' := ended
    cases settles with
    | addVersion adds => exact adds

theorem getSnapshot_settles (engine : Engine) (lawful : Lawful stamp h) (client : String) :
    Leads (Steps stamp) (Outcome (Refused engine h (.getSnapshot client)) fun snapshot h' =>
        Quiet h h' ∧ ((ledger client h).created = true ∨ engine.createClients = true) ∧
          snapshot = (ledger client h).taken.map fun taken => ⟨taken.version, taken.data⟩)
      (engine.getSnapshot client).run h := by
  refine (Leads.of_map (carryOut_settles engine lawful (.getSnapshot client))).mono ?_
  rintro (failure | snapshot) h' ended
  · exact ended
  · have settles : Settles engine h _ (.snapshotFound snapshot) h' := ended
    cases settles with
    | getSnapshot quiet known => exact ⟨quiet, known, rfl⟩

end

end TaskSync.Scenario
