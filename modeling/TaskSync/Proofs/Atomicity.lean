import TaskSync.Proofs.Moves

/-!
# All or nothing

A call of the embedded database makes up to two writes and reads a record back.
Whichever events are made to fail, it leaves all of its writes or none, and it
says which write failed.
-/

namespace TaskSync.Store

/-- The head of a client's chain, if there is such a client. -/
def Database.head? (db : Database) (client : String) : Option String :=
  (db.clients.find? (·.record.id = client)).map (·.record.head)

/-- The head that a call needs before it writes. -/
def Call.expected? : Call → Option String
  | .addVersion _ parent _ _ => some parent
  | .addSnapshot _ version _ _ => some version
  | _ => none

def Call.told? : (c : Call) → Except Failure c.Reply → Option Client
  | .createClient _, .ok record => some record
  | .addVersion .., .ok (.committed record) => some record
  | .addSnapshot .., .ok (.accepted record) => some record
  | _, _ => none

namespace Embedded

/-- The database with all that a call writes. -/
def written (now : Number) (db : Database) : Call → Database
  | .createClient client => { db with clients := db.clients ++ [⟨.fresh client, none⟩] }
  | .addVersion client parent version segment =>
    ⟨changeRow client (fun row => { row with record := row.record.advance version }) db.clients,
      db.versions ++ [⟨client, version, parent, segment⟩]⟩
  | .addSnapshot client version data prune =>
    ⟨changeRow client (fun row => ⟨row.record.snapshotTaken version (timeColumn now), some data⟩)
        db.clients,
      if prune then db.versions.filter fun row => !(row.client = client && row.version.id ≠ version)
      else db.versions⟩
  | _ => db

/-- What is answered where nothing is to be written. -/
inductive Decides (db : Database) : (c : Call) → Except Failure c.Reply → Prop where
  | getClient (client : String) :
      Decides db (.getClient client)
        (.ok ((db.clients.find? (·.record.id = client)).map (·.record)))
  | getVersionByParent (client parent : String) :
      Decides db (.getVersionByParent client parent)
        (.ok ((versionsOf client db.versions).find? (·.parent = parent)))
  | getSnapshot (client : String) :
      Decides db (.getSnapshot client)
        (.ok ((db.clients.find? (·.record.id = client)).bind snapshot?))
  | exists {client head : String} (known : db.head? client = some head) :
      Decides db (.createClient client) (.error (.clientAlreadyExists client))
  | notAdded {client : String} (unknown : db.head? client = none) (parent version : String)
      (segment : Bytes) :
      Decides db (.addVersion client parent version segment) (.error (.noSuchClient client))
  | conflict {client head parent : String} (known : db.head? client = some head)
      (behind : head ≠ parent) (version : String) (segment : Bytes) :
      Decides db (.addVersion client parent version segment) (.ok (.conflict head))
  | notTaken {client : String} (unknown : db.head? client = none) (version : String) (data : Bytes)
      (prune : Bool) :
      Decides db (.addSnapshot client version data prune) (.error (.noSuchClient client))
  | mismatch {client head version : String} (known : db.head? client = some head)
      (stale : head ≠ version) (data : Bytes) (prune : Bool) :
      Decides db (.addSnapshot client version data prune) (.ok (.mismatch head))

def Ready (db : Database) : Call → Prop
  | .createClient client => db.head? client = none
  | .addVersion client parent _ _ => db.head? client = some parent
  | .addSnapshot client version _ _ => db.head? client = some version
  | _ => False

/-- What the driver raises first if a call writes. An event fails on a row only, so that deleting no
row goes well. -/
def raised? (faults : List Fault) (db : Database) : Call → Option Failure
  | .createClient _ => if ⟨.clients, .insert⟩ ∈ faults then some Work.injected else none
  | .addVersion client parent version segment =>
    if ⟨.versions, .insert⟩ ∈ faults then some Work.injected
    else match repeatedKey? db.versions ⟨client, version, parent, segment⟩ with
      | some columns => some (Work.violates columns)
      | none => if ⟨.clients, .update⟩ ∈ faults then some Work.injected else none
  | .addSnapshot client version _ prune =>
    if ⟨.clients, .update⟩ ∈ faults then some Work.injected
    else if prune ∧ (∃ v ∈ versionsOf client db.versions, v.id ≠ version) ∧
        ⟨.versions, .delete⟩ ∈ faults then
      some Work.injected
    else none
  | _ => none

/-- Whether one of the writes of a call would fail, whichever comes first. -/
def WriteFails (faults : List Fault) (db : Database) : Call → Prop
  | .createClient _ => ⟨.clients, .insert⟩ ∈ faults
  | .addVersion client parent version _ =>
    ⟨.versions, .insert⟩ ∈ faults ∨
      (∃ v ∈ versionsOf client db.versions, v.id = version ∨ v.parent = parent) ∨
      ⟨.clients, .update⟩ ∈ faults
  | .addSnapshot client version _ prune =>
    ⟨.clients, .update⟩ ∈ faults ∨
      (prune = true ∧ (∃ v ∈ versionsOf client db.versions, v.id ≠ version) ∧
        ⟨.versions, .delete⟩ ∈ faults)
  | _ => False

variable (now : Number) {faults : List Fault} {db : Database} {c : Call}

/-! ## The three ways -/

theorem head?_eq_none {client : String} (unknown : db.head? client = none) :
    db.clients.find? (·.record.id = client) = none :=
  Option.map_eq_none_iff.mp unknown

theorem head?_eq_some {client head : String} (known : db.head? client = some head) :
    ∃ row, db.clients.find? (·.record.id = client) = some row ∧ row.record.head = head :=
  Option.map_eq_some_iff.mp known

theorem decides_or_ready (db : Database) (c : Call) :
    (∃ reply, Decides db c reply) ∨ Ready db c := by
  cases c with
  | getClient client => exact .inl ⟨_, .getClient client⟩
  | getVersionByParent client parent => exact .inl ⟨_, .getVersionByParent client parent⟩
  | getSnapshot client => exact .inl ⟨_, .getSnapshot client⟩
  | createClient client =>
    cases known : db.head? client with
    | none => exact .inr known
    | some head => exact .inl ⟨_, .exists known⟩
  | addVersion client parent version segment =>
    cases known : db.head? client with
    | none => exact .inl ⟨_, .notAdded known parent version segment⟩
    | some head =>
      by_cases behind : head = parent
      · exact .inr (behind ▸ known)
      · exact .inl ⟨_, .conflict known behind version segment⟩
  | addSnapshot client version data prune =>
    cases known : db.head? client with
    | none => exact .inl ⟨_, .notTaken known version data prune⟩
    | some head =>
      by_cases stale : head = version
      · exact .inr (stale ▸ known)
      · exact .inl ⟨_, .mismatch known stale data prune⟩

theorem call_of_decides {reply : Except Failure c.Reply} (decides : Decides db c reply) :
    call now c faults db = (reply, db) := by
  cases decides with
  | getClient client =>
    rw [run_call]
    rfl
  | getVersionByParent client parent =>
    rw [run_call, ← find?_versionsOf db.versions client fun v => v.parent = parent]
    rfl
  | getSnapshot client =>
    rw [run_call]
    rfl
  | «exists» known =>
    obtain ⟨row, found, -⟩ := head?_eq_some known
    simp only [run_call, perform, createClient, Work.run_bind, Work.run_client?, found]
    rfl
  | notAdded unknown parent version segment =>
    simp only [run_call, perform, addVersion, Work.run_bind, run_requireClient,
      head?_eq_none unknown, Failure.wrap]
  | conflict known behind version segment =>
    obtain ⟨row, found, rfl⟩ := head?_eq_some known
    simp only [run_call, perform, addVersion, Work.run_bind, run_requireClient, found, behind,
      if_false, Work.run_pure]
  | notTaken unknown version data prune =>
    simp only [run_call, perform, addSnapshot, Work.run_bind, run_requireClient,
      head?_eq_none unknown, Failure.wrap]
  | mismatch known stale data prune =>
    obtain ⟨row, found, rfl⟩ := head?_eq_some known
    simp only [run_call, perform, addSnapshot, Work.run_bind, run_requireClient, found, stale,
      if_false, Work.run_pure]

theorem any_others {client version : String} :
    (db.versions.any fun row => row.client = client && row.version.id ≠ version) = true ↔
      ∃ v ∈ versionsOf client db.versions, v.id ≠ version := by
  rw [any_versionsOf db.versions client fun v => v.id ≠ version, List.any_eq_true]
  simp only [decide_eq_true_eq]

theorem call_of_raised {failure : Failure} (ready : Ready db c)
    (raised : raised? faults db c = some failure) :
    call now c faults db = (.error (failure.wrap (context c)), db) := by
  unfold raised? at raised
  cases c with
  | getClient client => cases ready
  | getVersionByParent client parent => cases ready
  | getSnapshot client => cases ready
  | createClient client =>
    have unknown := head?_eq_none ready
    simp only [Option.ite_none_right_eq_some, Option.some.injEq] at raised
    obtain ⟨fault, rfl⟩ := raised
    simp only [run_call, perform, createClient, Work.run_bind, Work.run_client?, unknown,
      Option.isSome_none, Bool.false_eq_true, if_false, Work.run_insertClient, fault, if_true]
  | addVersion client parent version segment =>
    obtain ⟨row, found, head⟩ := head?_eq_some ready
    simp only [run_call, perform, addVersion, Work.run_bind, run_requireClient, found, head,
      if_true, Work.run_insertVersion]
    by_cases insert : (⟨.versions, .insert⟩ : Fault) ∈ faults
    · simp only [insert, if_true, Option.some.injEq] at raised ⊢
      rw [raised]
    · simp only [insert, if_false] at raised ⊢
      cases repeated : repeatedKey? db.versions ⟨client, version, parent, segment⟩ with
      | some columns =>
        simp only [repeated, Option.some.injEq] at raised ⊢
        rw [raised]
      | none =>
        simp only [repeated, Option.ite_none_right_eq_some, Option.some.injEq] at raised ⊢
        simp only [Work.run_updateClient _ found, raised.1, if_true, raised.2]
  | addSnapshot client version data prune =>
    obtain ⟨row, found, head⟩ := head?_eq_some ready
    simp only [run_call, perform, addSnapshot, Work.run_bind, run_requireClient, found, head,
      if_true, Work.run_updateClient _ found]
    by_cases update : (⟨.clients, .update⟩ : Fault) ∈ faults
    · simp only [update, if_true, Option.some.injEq] at raised ⊢
      rw [raised]
    · simp only [update, if_false, Option.ite_none_right_eq_some, Option.some.injEq] at raised ⊢
      obtain ⟨⟨rfl, others, delete⟩, rfl⟩ := raised
      simp only [if_true, Work.run_bind, Work.run_deleteVersions, any_others.mpr others, delete,
        and_self]

theorem addVersion_sound_iff {client : String} {v : Version} :
    raised? faults db (.addVersion client v.parent v.id v.segment) = none ↔
      ⟨.versions, .insert⟩ ∉ faults ∧ repeatedKey? db.versions ⟨client, v⟩ = none ∧
        ⟨.clients, .update⟩ ∉ faults := by
  obtain ⟨version, parent, segment⟩ := v
  simp only [raised?]
  by_cases insert : (⟨.versions, .insert⟩ : Fault) ∈ faults
  · simp [insert]
  · cases repeatedKey? db.versions ⟨client, version, parent, segment⟩ <;> simp [insert]

theorem addSnapshot_sound_iff {client version : String} {data : Bytes} {prune : Bool} :
    raised? faults db (.addSnapshot client version data prune) = none ↔
      ⟨.clients, .update⟩ ∉ faults ∧
        (prune = true → ¬ ((∃ v ∈ versionsOf client db.versions, v.id ≠ version) ∧
          ⟨.versions, .delete⟩ ∈ faults)) := by
  unfold raised?
  by_cases update : (⟨.clients, .update⟩ : Fault) ∈ faults
  · simp [update]
  · simp only [update, if_false, ite_eq_right_iff, reduceCtorEq, imp_false, not_and,
      not_false_eq_true, true_and]

theorem call_of_sound (ready : Ready db c) (sound : raised? faults db c = none) :
    ∃ reply record, call now c faults db = (reply, written now db c) ∧
      c.told? reply = some record ∧
      ((written now db c).clients.find? (·.record.id = c.client)).map (·.record) = some record := by
  cases c with
  | getClient client => cases ready
  | getVersionByParent client parent => cases ready
  | getSnapshot client => cases ready
  | createClient client =>
    have unknown := head?_eq_none ready
    have added : (written now db (.createClient client)).clients.find? (·.record.id = client) =
        some ⟨.fresh client, none⟩ := by
      simp [written, List.find?_append, unknown, Client.fresh]
    simp only [raised?, ite_eq_right_iff, reduceCtorEq, imp_false] at sound
    refine ⟨.ok (.fresh client), .fresh client, ?_, rfl, ?_⟩
    · simp only [run_call, perform, createClient, Work.run_bind, Work.run_client?, unknown,
        Option.isSome_none, Bool.false_eq_true, if_false, Work.run_insertClient, sound,
        Client.fresh, Work.run_pure, written]
    · exact congrArg (Option.map (·.record)) added
  | addVersion client parent version segment =>
    obtain ⟨row, found, head⟩ := head?_eq_some ready
    have changed := find?_changeRow_self found
      (fun row => { row with record := row.record.advance version }) fun _ => rfl
    obtain ⟨insert, free, update⟩ :=
      (addVersion_sound_iff (v := ⟨version, parent, segment⟩)).mp sound
    refine ⟨.ok (.committed (row.record.advance version)), row.record.advance version, ?_, rfl, ?_⟩
    · simp only [run_call, perform, addVersion, Work.run_bind, run_requireClient, found, head,
        if_true, Work.run_insertVersion, insert, if_false, free, Work.run_updateClient _ found,
        update, changed, Work.run_pure, written]
    · exact congrArg (Option.map (·.record)) changed
  | addSnapshot client version data prune =>
    obtain ⟨row, found, head⟩ := head?_eq_some ready
    have changed := find?_changeRow_self found
      (fun row => ⟨row.record.snapshotTaken version (timeColumn now), some data⟩) fun _ => rfl
    obtain ⟨update, spared⟩ := addSnapshot_sound_iff.mp sound
    refine ⟨.ok (.accepted (row.record.snapshotTaken version (timeColumn now))),
      row.record.snapshotTaken version (timeColumn now), ?_, rfl, ?_⟩
    · cases prune with
      | false =>
        simp only [run_call, perform, addSnapshot, Work.run_bind, run_requireClient, found, head,
          if_true, Work.run_updateClient _ found, update, changed, Work.run_pure,
          Bool.false_eq_true, if_false, written]
      | true =>
        have delete := spared rfl
        rw [← any_others] at delete
        simp only [run_call, perform, addSnapshot, Work.run_bind, run_requireClient, found, head,
          if_true, Work.run_updateClient _ found, update, if_false, Work.run_deleteVersions, delete,
          changed, Work.run_pure, written]
    · exact congrArg (Option.map (·.record)) changed

/-! ## What is told apart -/

theorem Decides.told? {reply : Except Failure c.Reply} (decides : Decides db c reply) :
    c.told? reply = none := by
  cases decides <;> rfl

theorem Decides.noSuchClient_iff {reply : Except Failure c.Reply} (decides : Decides db c reply)
    (client : String) :
    reply = .error (.noSuchClient client) ↔
      c.client = client ∧ c.expected?.isSome ∧ db.head? c.client = none := by
  cases decides <;> simp_all [Call.expected?, Call.client]

theorem Decides.clientAlreadyExists_iff {reply : Except Failure c.Reply}
    (decides : Decides db c reply) (client : String) :
    reply = .error (.clientAlreadyExists client) ↔
      c = .createClient client ∧ db.head? c.client ≠ none := by
  cases decides <;> simp_all [Call.client]

theorem Decides.not_storage {reply : Except Failure c.Reply} (decides : Decides db c reply)
    (message : String) (cause : Cause) : reply ≠ .error (.storage message cause) := by
  cases decides <;> simp

theorem Decides.failure {failure : Failure} (decides : Decides db c (.error failure)) :
    failure = .noSuchClient c.client ∨ failure = .clientAlreadyExists c.client := by
  cases decides with
  | «exists» known => exact .inr rfl
  | notAdded unknown parent version segment => exact .inl rfl
  | notTaken unknown version data prune => exact .inl rfl

theorem Decides.not_ready {reply : Except Failure c.Reply} (decides : Decides db c reply) :
    ¬ Ready db c := by
  cases decides <;> simp_all [Ready]

theorem Ready.known (ready : Ready db c) :
    ¬ (c.expected?.isSome ∧ db.head? c.client = none) ∧
      ∀ client, ¬ (c = .createClient client ∧ db.head? c.client ≠ none) := by
  cases c <;> simp_all [Ready, Call.expected?, Call.client]

theorem not_error_of_told {reply : Except Failure c.Reply} {record : Client}
    (told : c.told? reply = some record) (failure : Failure) : reply ≠ .error failure := by
  rintro rfl
  cases c <;> cases told

theorem exists_repeatedKey_iff {client : String} {v : Version} :
    (∃ columns, repeatedKey? db.versions ⟨client, v⟩ = some columns) ↔
      ∃ w ∈ versionsOf client db.versions, w.id = v.id ∨ w.parent = v.parent := by
  rw [← Option.isSome_iff_exists, ← Option.ne_none_iff_isSome, Ne, repeatedKey?_eq_none_iff]
  push Not
  refine exists_congr fun w => and_congr_right fun _ => ?_
  rw [or_comm, or_iff_not_imp_left]

theorem exists_raised_iff :
    (∃ failure, raised? faults db c = some failure) ↔ WriteFails faults db c := by
  cases c with
  | getClient other | getVersionByParent other parent | getSnapshot other =>
    simp only [raised?, WriteFails, reduceCtorEq, exists_false]
  | createClient other =>
    simp only [raised?, WriteFails, Option.ite_none_right_eq_some, Option.some.injEq,
      exists_and_left, exists_eq', and_true]
  | addVersion client parent version segment =>
    simp only [raised?, WriteFails]
    by_cases insert : (⟨.versions, .insert⟩ : Fault) ∈ faults
    · simp only [insert, if_true, Option.some.injEq, exists_eq', true_or]
    · rw [← exists_repeatedKey_iff (v := ⟨version, parent, segment⟩)]
      simp only [insert, if_false, false_or]
      cases repeatedKey? db.versions ⟨client, version, parent, segment⟩ with
      | some columns => simp only [Option.some.injEq, exists_eq', true_or]
      | none =>
        simp only [Option.ite_none_right_eq_some, Option.some.injEq, exists_and_left, exists_eq',
          and_true, reduceCtorEq, exists_false, false_or]
  | addSnapshot client version data prune =>
    simp only [raised?, WriteFails]
    by_cases update : (⟨.clients, .update⟩ : Fault) ∈ faults
    · simp only [update, if_true, Option.some.injEq, exists_eq', true_or]
    · simp only [update, if_false, Option.ite_none_right_eq_some, Option.some.injEq, false_or,
        exists_and_left, exists_eq', and_true]

theorem raised_driverFailure {failure : Failure} (raised : raised? faults db c = some failure) :
    ∃ text, failure = Work.driverFailure text := by
  unfold raised? at raised
  split at raised <;> (repeat' split at raised) <;> cases raised <;> exact ⟨_, rfl⟩

/-- What a call leaves and answers, whatever fails. -/
structure AllOrNothing (now : Number) (faults : List Fault) (db : Database) (c : Call)
    (reply : Except Failure c.Reply) (after : Database) : Prop where
  /-- Without a record as the answer, which is so for every failure and every other head, nothing
  was written. -/
  nothing : c.told? reply = none → after = db
  /-- With one, all was written, and the record is the one that is there then. -/
  all : ∀ record, c.told? reply = some record → after = written now db c ∧
    (after.clients.find? (·.record.id = c.client)).map (·.record) = some record
  granted : (∃ record, c.told? reply = some record) ↔ Ready db c ∧ ¬ WriteFails faults db c
  noSuchClient : ∀ client, reply = .error (.noSuchClient client) ↔
    c.client = client ∧ c.expected?.isSome ∧ db.head? c.client = none
  clientAlreadyExists : ∀ client, reply = .error (.clientAlreadyExists client) ↔
    c = .createClient client ∧ db.head? c.client ≠ none
  /-- Otherwise a call fails exactly when it comes to its writes and one of them fails. -/
  storage : (∃ message cause, reply = .error (.storage message cause)) ↔
    Ready db c ∧ WriteFails faults db c
  cause : ∀ message cause, reply = .error (.storage message cause) → message = context c ∧
    ∃ text, raised? faults db c = some (Work.driverFailure text) ∧ cause = .error text
  no_other : ∀ failure, reply = .error failure → failure = .noSuchClient c.client ∨
    failure = .clientAlreadyExists c.client ∨ ∃ message cause, failure = .storage message cause

namespace AllOrNothing

variable {now}

theorem of_decides {reply : Except Failure c.Reply} (decides : Decides db c reply) :
    AllOrNothing now faults db c reply db where
  nothing _ := rfl
  all record told := by
    rw [decides.told?] at told
    cases told
  granted := by simp [decides.told?, decides.not_ready]
  noSuchClient := decides.noSuchClient_iff
  clientAlreadyExists := decides.clientAlreadyExists_iff
  storage := by
    constructor
    · rintro ⟨message, cause, failed⟩
      exact absurd failed (decides.not_storage message cause)
    · exact fun fails => absurd fails.1 decides.not_ready
  cause message cause failed := absurd failed (decides.not_storage message cause)
  no_other := by
    rintro failure rfl
    exact decides.failure.imp_right .inl

theorem of_raised (ready : Ready db c) {text : String}
    (raised : raised? faults db c = some (Work.driverFailure text)) :
    AllOrNothing now faults db c (.error (.storage (context c) (.error text))) db := by
  obtain ⟨missing, present⟩ := ready.known
  have fails := exists_raised_iff.mp ⟨_, raised⟩
  constructor
  case nothing => exact fun _ => rfl
  case all =>
    intro record told
    exact absurd rfl (not_error_of_told told _)
  case granted =>
    constructor
    · rintro ⟨record, told⟩
      exact absurd rfl (not_error_of_told told _)
    · exact fun sound => absurd fails sound.2
  case noSuchClient => simp [missing]
  case clientAlreadyExists => simp [present]
  case storage => exact ⟨fun _ => ⟨ready, fails⟩, fun _ => ⟨_, _, rfl⟩⟩
  case cause =>
    rintro message cause ⟨rfl⟩
    exact ⟨rfl, text, raised, rfl⟩
  case no_other =>
    rintro failure ⟨rfl⟩
    exact .inr (.inr ⟨_, _, rfl⟩)

theorem of_sound (ready : Ready db c) (sound : raised? faults db c = none)
    {reply : Except Failure c.Reply} {record : Client} (told : c.told? reply = some record)
    (there : ((written now db c).clients.find? (·.record.id = c.client)).map (·.record) =
      some record) :
    AllOrNothing now faults db c reply (written now db c) := by
  obtain ⟨missing, present⟩ := ready.known
  have succeeds := not_error_of_told told
  have writes : ¬ WriteFails faults db c := by
    intro fails
    obtain ⟨failure, raised⟩ := exists_raised_iff.mpr fails
    rw [sound] at raised
    cases raised
  constructor
  case nothing =>
    intro untold
    rw [told] at untold
    cases untold
  case all =>
    intro other told'
    obtain rfl := Option.some.inj (told.symm.trans told')
    exact ⟨rfl, there⟩
  case granted => exact ⟨fun _ => ⟨ready, writes⟩, fun _ => ⟨record, told⟩⟩
  case noSuchClient => simp [succeeds, missing]
  case clientAlreadyExists => simp [succeeds, present]
  case storage => simp [succeeds, writes]
  case cause => exact fun _ _ failed => absurd failed (succeeds _)
  case no_other => exact fun _ failed => absurd failed (succeeds _)

end AllOrNothing

/-- **All or nothing.** Whatever events are made to fail, a call leaves all of its writes or none,
and fails if it is about no client or one too many, or else exactly where one of its writes does. -/
theorem all_or_nothing (now : Number) (faults : List Fault) (db : Database) (c : Call) :
    AllOrNothing now faults db c (call now c faults db).1 (call now c faults db).2 := by
  -- Either nothing is to be written, or a first write fails, or all writes go well.
  rcases decides_or_ready db c with ⟨reply, decides⟩ | ready
  · rw [call_of_decides now decides]
    exact .of_decides decides
  · cases raised : raised? faults db c with
    | some failure =>
      rw [call_of_raised now ready raised]
      obtain ⟨text, rfl⟩ := raised_driverFailure raised
      exact .of_raised ready raised
    | none =>
      obtain ⟨reply, record, answered, told, there⟩ := call_of_sound now ready raised
      rw [answered]
      exact .of_sound ready raised told there

end Embedded

end TaskSync.Store
