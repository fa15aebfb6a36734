import TaskSync.Proofs.Interleaving

/-!
# Races between requests

Requests may come in any number, race to create the same client and race to add
behind the same version. One of them wins, and the others are told the head to
merge with. What was added is one chain, in the order of the calls that added it.
-/

namespace TaskSync.Scenario

open Store

/-- Versions one behind the other, the first behind a given parent. -/
def Chained : String → List Version → Prop
  | _, [] => True
  | parent, version :: rest => version.parent = parent ∧ Chained version.id rest

theorem chained_of_linked {parent : String} {versions : List Version}
    (linked : ∀ (i : Nat) (v : Version), versions[i]? = some v →
      (parent :: versions.map (·.id))[i]? = some v.parent) :
    Chained parent versions := by
  induction versions generalizing parent with
  | nil => trivial
  | cons version rest ih =>
    refine ⟨?_, ih fun i v hv => ?_⟩
    · have hfirst := linked 0 version rfl
      exact (Option.some.inj hfirst).symm
    · simpa using linked (i + 1) v (by simpa using hv)

def Adds (orders : List Order) (i : Nat) (client parent : String) (segment : Bytes) : Prop :=
  ∃ engine, orders[i]? = some ⟨engine, .addVersion client parent segment⟩

namespace Underway

def Added (u : Underway) (i : Nat) (version : String) : Prop :=
  ∃ urgency, u.Done i (.ok (.versionAdded (.added version urgency)))

/-- Requests are answered as if those that add versions came one after the other. -/
structure Serialized (store : Backing) (orders : List Order) (turns : List Turn) : Prop where
  /-- No request fails. -/
  no_failure : ∀ i failure, ¬ (run store orders turns).Done i (.error failure)
  /-- Of the requests that add behind one version, one at most is told that it did. -/
  one_winner : ∀ i j client parent segment segment' version version',
    Adds orders i client parent segment → Adds orders j client parent segment' →
      (run store orders turns).Added i version → (run store orders turns).Added j version' → i = j
  /-- The versions committed are one chain from the nil id, in the order of the calls. -/
  chained : ∀ client, Chained nilId (((run store orders turns).transcript.commits client).map (·.2))
  /-- Each belongs to a request of its own. -/
  once : ∀ client, (((run store orders turns).transcript.commits client).map (·.1)).Nodup
  /-- A request that was told that its version was added has committed it. -/
  added : ∀ i client parent segment version, Adds orders i client parent segment →
    (run store orders turns).Added i version →
      (i, ⟨version, parent, segment⟩) ∈ (run store orders turns).transcript.commits client
  /-- A version committed is the one that its request was to add, and is told once that is done. -/
  committed : ∀ i client version, (i, version) ∈ (run store orders turns).transcript.commits client →
    Adds orders i client version.parent version.segment ∧
      ∀ result, (run store orders turns).Done i result →
        (run store orders turns).Added i version.id
  /-- The head at the request's own call decides, and in a conflict it is what is told. -/
  decided : ∀ i client parent segment result, Adds orders i client parent segment →
    (run store orders turns).Done i result →
      ∃ before turn after version record, turns = before ++ turn :: after ∧ turn.request = i ∧
        (run store orders before).Calling i (.addVersion client parent version segment) ∧
        (∀ time, ((run store orders before).store.call 0 time (.getClient client)).1 =
          .ok (some record)) ∧
        ((record.head = parent ∧ ∃ urgency, result = .ok (.versionAdded (.added version urgency))) ∨
          (record.head ≠ parent ∧ result = .ok (.versionAdded (.conflict record.head))))

variable {stamp : Number → Option Number} {orders : List Order} {u : Underway}

theorem Holds.added (holds : u.Holds stamp orders) {i : Nat} {client parent version : String}
    {segment : Bytes} (adds : Adds orders i client parent segment) (added : u.Added i version) :
    (i, ⟨version, parent, segment⟩) ∈ u.transcript.commits client := by
  obtain ⟨urgency, done⟩ := added
  obtain ⟨engine, hi⟩ := adds
  cases holds.justified hi done with
  | added line => exact Transcript.mem_commits.mpr ⟨_, _, line⟩

theorem Holds.adds_of_commit (holds : u.Holds stamp orders) {i : Nat} {client : String}
    {v : Version} (commit : (i, v) ∈ u.transcript.commits client) :
    Adds orders i client v.parent v.segment ∧ ⟨i, .drew v.id⟩ ∈ u.transcript := by
  obtain ⟨time, record, hline⟩ := Transcript.mem_commits.mp commit
  obtain ⟨⟨engine, command⟩, earlier, horder, hpre, hcommand, drew, -⟩ := holds.rule hline
  refine ⟨⟨engine, ?_⟩, hpre.subset drew⟩
  rw [horder, ← hcommand]

theorem Holds.one_winner (holds : u.Holds stamp orders) (fresh : u.transcript.FreshDraws)
    {i j : Nat} {client parent version version' : String} {segment segment' : Bytes}
    (adds : Adds orders i client parent segment) (adds' : Adds orders j client parent segment')
    (added : u.Added i version) (added' : u.Added j version') : i = j := by
  have commit := holds.added adds added
  have commit' := holds.added adds' added'
  have sound := holds.keeps.sound client
  have hmem := List.mem_map_of_mem (f := (·.2)) commit
  have hmem' := List.mem_map_of_mem (f := (·.2)) commit'
  rw [Transcript.map_commits] at hmem hmem'
  obtain ⟨rfl, -, rfl⟩ := Version.mk.inj (sound.parent_injective hmem hmem' rfl)
  exact fresh.drawn_once (holds.adds_of_commit commit).2 (holds.adds_of_commit commit').2

theorem Holds.once (holds : u.Holds stamp orders) (client : String) :
    ((u.transcript.commits client).map (·.1)).Nodup := by
  have sound := holds.keeps.sound client
  have hids : ((u.transcript.commits client).map fun commit => commit.2.id).Nodup := by
    have htail := (List.nodup_cons.mp sound.distinct).2
    rw [← Transcript.map_commits, List.map_map] at htail
    exact htail
  refine List.Nodup.map_on ?_ (List.Nodup.of_map _ hids)
  rintro ⟨i, v⟩ hv ⟨j, w⟩ hw rfl
  obtain ⟨time, record, hline⟩ := Transcript.mem_commits.mp hv
  obtain ⟨time', record', hline'⟩ := Transcript.mem_commits.mp hw
  have same : Call.addVersion .. = Call.addVersion .. :=
    congrArg Answered.call (holds.append_once hline rfl hline' rfl)
  obtain ⟨-, hparent, hid, hsegment⟩ := Call.addVersion.inj same
  have hvw : v = w := by
    obtain ⟨_, _, _⟩ := v
    obtain rfl := hparent
    obtain rfl := hid
    obtain rfl := hsegment
    rfl
  rw [hvw]

theorem Holds.committed (holds : u.Holds stamp orders)
    (creates : ∀ order ∈ orders, order.engine.createClients = true) {i : Nat} {client : String}
    {v : Version} (commit : (i, v) ∈ u.transcript.commits client) {result : Result}
    (done : u.Done i result) : u.Added i v.id := by
  obtain ⟨time, record, hline⟩ := Transcript.mem_commits.mp commit
  obtain ⟨engine, hi⟩ := (holds.adds_of_commit commit).1
  obtain ⟨value, rfl, justified⟩ := holds.answered creates hi done
  cases justified with
  | added line =>
    cases holds.append_once hline rfl line rfl
    exact ⟨_, done⟩
  | conflict line => cases holds.append_once hline rfl line rfl

theorem record_at_call {store : Backing} (keeps : store.Keeps stamp []) {turns : List Turn}
    (fresh : (run store orders turns).transcript.FreshDraws) {i : Nat} {e : Answered}
    (hmem : ⟨i, .called e⟩ ∈ (run store orders turns).transcript) :
    ∃ before turn after, ∃ l : Ledger, turns = before ++ turn :: after ∧ turn.request = i ∧
      (run store orders before).Calling i e.call ∧ e.reply = l.answer stamp e.time e.call ∧
      (l.created = true → ∀ time,
        ((run store orders before).store.call 0 time (.getClient e.call.client)).1 =
          .ok (some (l.record stamp e.call.client))) := by
  obtain ⟨earlier, later, hsplit⟩ := List.append_of_mem hmem
  obtain ⟨before, turn, after, hturns, request, calling, kept, reply⟩ :=
    call_answered keeps fresh hsplit
  exact ⟨before, turn, after, _, hturns, request, calling, reply,
    fun created => kept.client_reply created 0⟩

theorem decided {store : Backing} (keeps : store.Keeps stamp [])
    (creates : ∀ order ∈ orders, order.engine.createClients = true) {turns : List Turn}
    (fresh : (run store orders turns).transcript.FreshDraws) {i : Nat} {client parent : String}
    {segment : Bytes} (adds : Adds orders i client parent segment) {result : Result}
    (done : (run store orders turns).Done i result) :
    ∃ before turn after version record, turns = before ++ turn :: after ∧ turn.request = i ∧
      (run store orders before).Calling i (.addVersion client parent version segment) ∧
      (∀ time, ((run store orders before).store.call 0 time (.getClient client)).1 =
        .ok (some record)) ∧
      ((record.head = parent ∧ ∃ urgency, result = .ok (.versionAdded (.added version urgency))) ∨
        (record.head ≠ parent ∧ result = .ok (.versionAdded (.conflict record.head)))) := by
  have holds := Holds.run keeps orders fresh
  obtain ⟨engine, hi⟩ := adds
  obtain ⟨value, rfl, justified⟩ := holds.answered creates hi done
  cases justified with
  | added line =>
    obtain ⟨before, turn, after, l, hturns, request, calling, reply, record⟩ :=
      record_at_call keeps fresh line
    obtain ⟨created, head⟩ := Ledger.created_of_committed reply.symm
    exact ⟨before, turn, after, _, _, hturns, request, calling, record created,
      .inl ⟨head, _, rfl⟩⟩
  | conflict line =>
    obtain ⟨before, turn, after, l, hturns, request, calling, reply, record⟩ :=
      record_at_call keeps fresh line
    obtain ⟨created, differs, rfl⟩ := Ledger.created_of_conflict reply.symm
    exact ⟨before, turn, after, _, _, hturns, request, calling, record created,
      .inr ⟨differs, rfl⟩⟩

end Underway

/-- **Optimistic concurrency.** Whatever the order of turns of any requests on a new store, none
fails, and those that add versions are told who won. -/
theorem optimistic_concurrency {store : Backing} (new : store.IsNew) {orders : List Order}
    (creates : ∀ order ∈ orders, order.engine.createClients = true) {turns : List Turn}
    (fresh : (Underway.run store orders turns).transcript.FreshDraws) :
    Underway.Serialized store orders turns := by
  obtain ⟨stamp, keeps⟩ := new.keeps
  have holds := Underway.Holds.run keeps orders fresh
  constructor
  case no_failure => exact holds.no_failure creates
  case one_winner =>
    intro i j client parent segment segment' version version' adds adds' added added'
    exact holds.one_winner fresh adds adds' added added'
  case chained =>
    intro client
    rw [Transcript.map_commits]
    exact chained_of_linked (holds.keeps.sound client).linked
  case once => exact holds.once
  case added =>
    intro i client parent segment version adds added
    exact holds.added adds added
  case committed =>
    intro i client version commit
    exact ⟨(holds.adds_of_commit commit).1, fun result done => holds.committed creates commit done⟩
  case decided =>
    intro i client parent segment result adds done
    exact Underway.decided keeps creates fresh adds done

/-- Two requests that add the first version of the same new client. -/
def rivals : List Order :=
  [⟨{}, .addVersion "c" nilId [1]⟩, ⟨{}, .addVersion "c" nilId [2]⟩]

/-- Turns of the two, one after the other. -/
def rivalTurns : List Turn :=
  (List.replicate 7 [⟨0, 1, "v1"⟩, ⟨1, 2, "v2"⟩]).flatten

theorem optimistic_concurrency_rivals :
    (Backing.memory .empty).IsNew ∧ (∀ order ∈ rivals, order.engine.createClients = true) ∧
      (Underway.run (.memory .empty) rivals rivalTurns).transcript.FreshDraws ∧
      Underway.Serialized (.memory .empty) rivals rivalTurns := by
  have creates : ∀ order ∈ rivals, order.engine.createClients = true := by decide
  have fresh : (Underway.run (.memory .empty) rivals rivalTurns).transcript.FreshDraws := by
    decide +kernel
  exact ⟨.memory, creates, fresh, optimistic_concurrency .memory creates fresh⟩

end TaskSync.Scenario
