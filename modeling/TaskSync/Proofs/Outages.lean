import TaskSync.Proofs.Holdings
import TaskSync.Proofs.Promises

/-!
# Operations in outages

What an operation leaves in the store when any of its calls may fail. A call that
fails has changed nothing, so that an operation leaves the store as it was, but
for an empty record of a client that it did not know, unless it did all that it
was asked for.
-/

namespace TaskSync

/-- The store was out of reach. -/
inductive Failure.IsOutage : Failure → Prop where
  | storage (message : String) (cause : Cause) : IsOutage (.storage message cause)
  | plain (message : String) : IsOutage (.plain message)

namespace Scenario

open Store

section

variable (time : Number) (h : History)

/-- The answers to a question and the store then. A version has an id that is new to a history. -/
inductive Met (b : Backing) : (question : Ask) → question.Answer → Backing → Prop where
  | store (c : Call) (fresh : c.IsFresh (ledger c.client h)) :
      Met b (.store c) (b.call 0 time c).1 (b.call 0 time c).2
  | outage (c : Call) {failure : Failure} (outage : failure.IsOutage) :
      Met b (.store c) (.error failure) b
  | freshId (id : String) : Met b .freshId id b
  | now (time : Number) : Met b .now time b
  | stopwatch (time : Number) : Met b .stopwatch time b
  | note (entry : Journal.Entry) : Met b (.note entry) () b

variable {time h} {b after : Backing}

theorem Met.callsOnly : CallsOnly (Met time h) := by
  intro b question answer after met other
  cases met with
  | store c | outage c => exact absurd rfl (other c)
  | freshId | now | stopwatch | note => rfl

theorem Met.called {c : Call} {reply : Except Failure c.Reply}
    (met : Met time h b (.store c) reply after) :
    (∃ failure : Failure, reply = .error failure ∧ failure.IsOutage ∧ after = b) ∨
      c.IsFresh (ledger c.client h) ∧ b.call 0 time c = (reply, after) := by
  cases met with
  | store _ fresh => exact .inr ⟨fresh, rfl⟩
  | outage _ outage => exact .inl ⟨_, rfl, outage, rfl⟩

end

/-! ## What may be left -/

/-- The store is as it was, but for an empty record if the client was unknown. -/
inductive Enrols (engine : Engine) (client : String) (b : Backing) : Backing → Prop where
  | same : Enrols engine client b b
  | enrolled (creates : engine.createClients = true) (unknown : b.row? client = none) :
      Enrols engine client b (b.enrol client)

/-- A version was appended behind the head, and nothing else has changed. -/
structure Appends (b : Backing) (client : String) (version : Version) (after : Backing) :
    Prop where
  head : ((b.holding client).rowOf client).record.head = version.parent
  own : after.holding client = (b.holding client).append client version
  others : ∀ other, other ≠ client → after.holding other = b.holding other

/-- A snapshot of the head was taken, and nothing else has changed. -/
structure Takes (b : Backing) (client : String) (snapshot : Snapshot) (time : Number)
    (prune : Bool) (after : Backing) : Prop where
  head : ((b.holding client).rowOf client).record.head = snapshot.version
  filled : snapshot.version ≠ nilId
  own : after.holding client = (b.holding client).take client snapshot (b.stamp time) prune
  others : ∀ other, other ≠ client → after.holding other = b.holding other

variable {engine : Engine} {client : String} {b after : Backing} {stamp : Number → Option Number}
  {h : History}

namespace Enrols

variable (enrols : Enrols engine client b after) (keeps : b.Keeps stamp h)
include enrols keeps

theorem kept : ∃ h', after.Keeps stamp h' ∧
    ∀ c : Call, c.IsFresh (ledger c.client h) → c.IsFresh (ledger c.client h') := by
  cases enrols with
  | same => exact ⟨h, keeps, fun _ fresh => fresh⟩
  | enrolled creates unknown =>
    have same (owner : String) :
        (ledger owner (h ++ [⟨0, .createClient client, .ok (.fresh client)⟩])).ids =
          (ledger owner h).ids := by
      rw [ledger_snoc]
      split <;> rfl
    refine ⟨_, keeps.enrol unknown, fun c fresh => ?_⟩
    cases c with
    | addVersion owner parent version segment => exact fun known => fresh (same owner ▸ known)
    | _ => trivial

theorem others {other : String} (another : other ≠ client) :
    after.holding other = b.holding other := by
  cases enrols with
  | same => rfl
  | enrolled creates unknown => exact keeps.holding_enrol_of_ne unknown another

theorem rowOf : (after.holding client).rowOf client = (b.holding client).rowOf client := by
  cases enrols with
  | same => rfl
  | enrolled creates unknown =>
    rw [keeps.holding_enrol unknown]
    exact Holding.rowOf_enrol unknown

theorem append (version : Version) :
    (after.holding client).append client version = (b.holding client).append client version := by
  cases enrols with
  | same => rfl
  | enrolled creates unknown =>
    rw [keeps.holding_enrol unknown]
    exact Holding.append_enrol unknown version

theorem take (snapshot : Snapshot) (time : Option Number) (prune : Bool) :
    (after.holding client).take client snapshot time prune =
      (b.holding client).take client snapshot time prune := by
  cases enrols with
  | same => rfl
  | enrolled creates unknown =>
    rw [keeps.holding_enrol unknown]
    exact Holding.take_enrol unknown snapshot time prune

theorem same_of_child {parent : String} {version : Version}
    (found : after.child? client parent = some version) : after = b := by
  cases enrols with
  | same => rfl
  | enrolled creates unknown =>
    have child : (b.enrol client).child? client parent = b.child? client parent :=
      congrFun (congrArg Holding.child? (keeps.holding_enrol unknown)) parent
    rw [child, keeps.child?_unknown unknown] at found
    cases found

theorem others_of_call {h' : History} (keeps' : after.Keeps stamp h') {c : Call}
    (own : c.client = client) (fresh : c.IsFresh (ledger c.client h')) {time : Number}
    {reply : Except Failure c.Reply} {last : Backing}
    (called : after.call 0 time c = (reply, last)) :
    ∀ other, other ≠ client → last.holding other = b.holding other := by
  intro other another
  have stays := keeps'.others time fresh (own ▸ another)
  rw [called] at stays
  rw [stays, enrols.others keeps another]

variable {h' : History} (keeps' : after.Keeps stamp h') {row : ClientRow}
  (known : after.row? client = some row) {time : Number} {last : Backing} {record : Client}
include keeps' known

theorem appends {parent version : String} {segment : Bytes}
    (fresh : (Call.addVersion client parent version segment).IsFresh (ledger client h'))
    (called : after.call 0 time (.addVersion client parent version segment) =
      (.ok (.committed record), last)) : Appends b client ⟨version, parent, segment⟩ last := by
  by_cases head : row.record.head = parent
  · obtain ⟨added, there, committed, own⟩ :=
      keeps'.addVersion_committed time known head segment fresh
    obtain ⟨-, rfl⟩ := Prod.mk.inj (committed.symm.trans called)
    have others := enrols.others_of_call keeps keeps'
      (c := .addVersion client parent version segment) rfl fresh called
    refine ⟨?_, ?_, others⟩
    · rw [← enrols.rowOf keeps, Holding.rowOf_known known, head]
    · rw [own, enrols.append keeps]
  · cases (keeps'.addVersion_conflict time known head segment fresh).symm.trans called

theorem takes {version : String} {data : Bytes} {prune : Bool} (filled : version ≠ nilId)
    (called : after.call 0 time (.addSnapshot client version data prune) =
      (.ok (.accepted record), last)) : Takes b client ⟨version, data⟩ time prune last := by
  by_cases head : row.record.head = version
  · obtain ⟨taken, there, accepted, own⟩ :=
      keeps'.addSnapshot_accepted time known head data prune
    obtain ⟨-, rfl⟩ := Prod.mk.inj (accepted.symm.trans called)
    have others := enrols.others_of_call keeps keeps'
      (c := .addSnapshot client version data prune) rfl trivial called
    refine ⟨?_, filled, ?_, others⟩
    · rw [← enrols.rowOf keeps, Holding.rowOf_known known, head]
    · rw [own, enrols.take keeps, keeps'.stamps, keeps.stamps]
  · cases (keeps'.addSnapshot_mismatch time known head data prune).symm.trans called

end Enrols

/-! ## What is left of a client -/

/-- Looking for a client leaves the store as it was, but for an empty record of one that was
unknown and may be created. -/
def Looked (creates : Bool) (client : String) (b after : Backing) : Prop :=
  after = b ∨ creates = true ∧ b.row? client = none ∧ after = b.enrol client

theorem Looked.same (looked : Looked false client b after) : after = b :=
  looked.resolve_right nofun

theorem Looked.enrols {command : Http.Command}
    (looked : Looked (engine.enrols command) client b after) : Enrols engine client b after := by
  rcases looked with rfl | ⟨on, unknown, rfl⟩
  · exact .same
  · refine .enrolled ?_ unknown
    by_contra off
    rw [Engine.enrols_eq_false (Bool.eq_false_iff.mpr off)] at on
    cases on

theorem Met.getClient {time : Number} {reply : Except Failure (Option Client)}
    (met : Met time h b (.store (.getClient client)) reply after) (keeps : b.Keeps stamp h) :
    after = b ∧ Outcome (fun failure _ => failure.IsOutage)
      (fun found _ => (b.row? client).map (·.record) = found) reply after := by
  rcases met.called with ⟨failure, rfl, outage, rfl⟩ | ⟨-, called⟩
  · exact ⟨rfl, outage⟩
  · obtain ⟨rfl, rfl⟩ := Prod.mk.inj ((keeps.getClient time client).symm.trans called)
    exact ⟨rfl, rfl⟩

theorem Met.createClient {time : Number} {reply : Except Failure Client}
    (met : Met time h b (.store (.createClient client)) reply after) (keeps : b.Keeps stamp h)
    (unknown : b.row? client = none) :
    Outcome (fun failure after => failure.IsOutage ∧ after = b)
      (fun record after => record = .fresh client ∧ after = b.enrol client) reply after := by
  rcases met.called with ⟨failure, rfl, outage, rfl⟩ | ⟨-, called⟩
  · exact ⟨outage, rfl⟩
  · obtain ⟨rfl, rfl⟩ := Prod.mk.inj ((keeps.createClient time unknown).symm.trans called)
    exact ⟨rfl, rfl⟩

/-- Whatever fails, it has changed nothing, and a client that is found has the record that was
told. -/
theorem Seeks.left {time : Number} {creates : Bool} {calls : List Placed}
    {found : Except Failure (Option Client)} (seeks : Seeks creates client calls found)
    (made : Calls (fun b c => Met time h b (.store c)) b calls after) (keeps : b.Keeps stamp h) :
    Outcome (fun failure after => failure.IsOutage ∧ Looked creates client b after)
      (fun found after => Looked creates client b after ∧ (found = none → after = b) ∧
        ∀ record ∈ found, ∃ row, after.row? client = some row ∧ row.record = record)
      found after := by
  cases seeks with
  | known record =>
    obtain ⟨_, met, rfl⟩ := made
    obtain ⟨rfl, same⟩ := met.getClient keeps
    refine ⟨.inl rfl, nofun, ?_⟩
    rintro _ ⟨rfl⟩
    exact Option.map_eq_some_iff.mp same
  | unread failure =>
    obtain ⟨_, met, rfl⟩ := made
    obtain ⟨rfl, outage⟩ := met.getClient keeps
    exact ⟨outage, .inl rfl⟩
  | unknown off =>
    obtain ⟨_, met, rfl⟩ := made
    obtain ⟨rfl, -⟩ := met.getClient keeps
    exact ⟨.inl rfl, fun _ => rfl, nofun⟩
  | created on record =>
    obtain ⟨_, met, _, met', rfl⟩ := made
    obtain ⟨rfl, unknown⟩ := met.getClient keeps
    have unknown := Option.map_eq_none_iff.mp unknown
    obtain ⟨rfl, rfl⟩ := met'.createClient keeps unknown
    refine ⟨.inr ⟨on, unknown, rfl⟩, nofun, ?_⟩
    rintro _ ⟨rfl⟩
    exact ⟨⟨.fresh client, none⟩, congrArg Holding.row (keeps.holding_enrol unknown), rfl⟩
  | uncreated on other =>
    obtain ⟨_, met, _, met', rfl⟩ := made
    obtain ⟨rfl, unknown⟩ := met.getClient keeps
    obtain ⟨outage, rfl⟩ := met'.createClient keeps (Option.map_eq_none_iff.mp unknown)
    exact ⟨outage, .inl rfl⟩
  | raced on | vanished on | unreadAgain on =>
    -- Nobody else is there to create the client in between.
    obtain ⟨_, met, _, met', -⟩ := made
    obtain ⟨rfl, unknown⟩ := met.getClient keeps
    obtain ⟨⟨⟩, -⟩ := met'.createClient keeps (Option.map_eq_none_iff.mp unknown)

theorem Own.left {time : Number} {command : Http.Command} {sought : List Placed} {record : Client}
    {c : Call} {reply : Except Failure c.Reply} (own : Own engine command c)
    (seeks : Seeks (engine.enrols command) command.client sought (.ok (some record)))
    (made : Calls (fun b c => Met time h b (.store c)) b (sought ++ [⟨c, reply⟩]) after)
    (keeps : b.Keeps stamp h) :
    ∃ between, Looked (engine.enrols command) command.client b between ∧
      ((∃ failure : Failure, reply = .error failure ∧ failure.IsOutage ∧ after = between) ∨
        ∃ value h' row, reply = .ok value ∧ between.Keeps stamp h' ∧
          c.IsFresh (ledger c.client h') ∧ between.row? c.client = some row ∧
            between.call 0 time c = (.ok value, after)) := by
  obtain ⟨between, sought, last⟩ := Calls.append_iff.mp made
  obtain ⟨_, met, rfl⟩ := last
  obtain ⟨looked, -, known⟩ := seeks.left sought keeps
  refine ⟨between, looked, met.called.imp id ?_⟩
  rintro ⟨fresh, called⟩
  -- The client's record may be new, but ids that were fresh before it still are.
  obtain ⟨h', keeps', still⟩ := looked.enrols.kept keeps
  obtain ⟨row, known, -⟩ := known record rfl
  have same := own.about
  rw [← same] at known
  obtain ⟨value, granted⟩ := Ledger.answer_of_created ((keeps'.created_iff _).mpr ⟨row, known⟩)
    own.not_create stamp time
  obtain ⟨answered, -⟩ := keeps'.call (still c fresh) 0 time
  obtain rfl := (congrArg Prod.fst called).symm.trans (answered.trans granted)
  exact ⟨value, h', row, rfl, keeps', still c fresh, known, called⟩

end Scenario

end TaskSync
