import TaskSync.Proofs.Gate
import TaskSync.Proofs.Immutability
import TaskSync.Proofs.Urgencies

/-!
# Asking for snapshots

Whoever adds a version is told how urgent a snapshot is, by the engine and over
HTTP. In any run, with other clients, conflicts and outages in between, this
follows from the calls that the store has granted and from the clock alone.
-/

namespace TaskSync

namespace Urgency

/-- What is sent to ask for a snapshot. -/
def header? : Urgency → Option String
  | .none => .none
  | urgency => .some ("urgency=" ++ urgency.name)

theorem header?_injective : Function.Injective header? := by
  intro a b h
  cases a <;> cases b <;> first | rfl | exact absurd h (by decide)

end Urgency

theorem Http.Response.header?_labels (response : Http.Response) (id? : Option String)
    (headOnly : Bool) (name : String) (other : name ∉ ["x-request-id", "cache-control"]) :
    ({ response.withHeaders (App.labels id?) with headOnly } : Http.Response).header? name =
      response.header? name := by
  have added : (App.labels id?).find? (·.1 = name) = none := by
    cases id? with
    | none => rfl
    | some id =>
      simp only [List.mem_cons, List.not_mem_nil, or_false, not_or] at other
      simp [App.labels, Ne.symm other.1, Ne.symm other.2]
  unfold header? allHeaders withHeaders mediaType?
  simp only [← List.append_assoc, List.find?_append, added, Option.or_none]

namespace Scenario

open Store
open Http (App Command Response)
open Leads (done)

/-! ## One conversation -/

theorem Attempts.adds_iff {engine : Engine} {command : Command} {calls : List Placed}
    {value : Value}
    (attempts : Attempts engine command calls (.ok value)) :
    (∃ client parent segment, command = .addVersion client parent segment) ↔
      ∃ answer, value = .versionAdded answer := by
  cases attempts with
  | nothing seeks reads =>
    rw [reads]
    simp
  | ofNothing seeks empty =>
    rw [empty]
    simp
  | answered seeks own gives => cases own <;> cases gives <;> simp

/-- What is sent for a command, or without one, to whoever may be asked for a snapshot. -/
structure Sent (policy : SnapshotPolicy) (asked : Option Command) (response : Response)
    (known : List Told) : Prop where
  added : ∀ client parent segment, asked = some (.addVersion client parent segment) →
    response.status = 200 → ∃ urgency,
      response.header? "x-snapshot-request" = urgency.header? ∧
        Reckoned policy client urgency known
  asking : response.header? "x-snapshot-request" ≠ none → response.status = 200 ∧
    ∃ client parent segment, asked = some (.addVersion client parent segment)

theorem Sent.refused {policy : SnapshotPolicy} {asked : Option Command} {response : Response}
    {known : List Told} (failed : response.status ≠ 200)
    (silent : response.header? "x-snapshot-request" = none) : Sent policy asked response known :=
  ⟨fun _ _ _ _ ok => absurd ok failed, fun asking => absurd silent asking⟩

theorem Concluded.sent {engine : Engine} {command : Command} {result : Result} {said : List Told}
    {response : Response} (concluded : Concluded engine command result said)
    (answers : Answers result response) :
    Sent engine.policy (some command) response (heard said) := by
  have silent {value : Value} (done : result = .ok value)
      (other : ∀ answer, value ≠ .versionAdded answer)
      (bare : response.header? "x-snapshot-request" = none) :
      Sent engine.policy (some command) response (heard said) := by
    refine ⟨?_, fun asking => absurd bare asking⟩
    rintro client parent segment ⟨rfl⟩ _
    have attempts := concluded.attempts
    rw [done] at attempts
    obtain ⟨answer, added⟩ := attempts.adds_iff.mp ⟨client, parent, segment, rfl⟩
    exact absurd added (other answer)
  cases answers with
  | added answer =>
    obtain ⟨client, parent, segment, rfl⟩ := concluded.attempts.adds_iff.mpr ⟨answer, rfl⟩
    rcases answer with ⟨version, urgency⟩ | head
    · have header : (Command.sendAdded (.added version urgency)).header? "x-snapshot-request" =
          urgency.header? := by
        cases urgency <;> rfl
      refine ⟨?_, fun _ => ⟨?_, client, parent, segment, rfl⟩⟩
      · rintro _ _ _ ⟨rfl⟩ _
        exact ⟨urgency, header, concluded.reckoned version urgency rfl⟩
      · cases urgency <;> rfl
    · exact .refused nofun rfl
  | child answer => exact silent rfl nofun (by cases answer <;> rfl)
  | stored => exact silent rfl nofun rfl
  | found answer => exact silent rfl nofun (by cases answer <;> rfl)
  | unknown | broken => exact .refused nofun rfl

theorem settle_sent (app : App) (command : Command) (method path : String) :
    Leads Hears (Sent app.engine.policy (some command)) (app.settle command method path) [] :=
  settle_hears app command method path fun _ _ _ concluded answers => concluded.sent answers

theorem respond_sent (app : App) (request : Http.Request) :
    Leads Hears (Sent app.engine.policy (app.asks request)) (app.respond request) [] := by
  have nothing (unasked : app.asks request = none) (response : Response)
      (bare : response.headers = []) (_ : response.status = 200 →
        (App.destination request).route = some .banner) :
      Sent app.engine.policy (app.asks request) response [] := by
    have silent : response.header? "x-snapshot-request" = none := by
      unfold Response.header? Response.allHeaders
      rw [bare]
      cases response.mediaType? <;> rfl
    rw [unasked]
    exact ⟨nofun, fun asking => absurd silent asking⟩
  have inner := Leads.respond Hears.ignoresAsides app request
    (Sent app.engine.policy (app.asks request)) nothing
    fun command method path asked => asked ▸ settle_sent app command method path
  refine inner.mono ?_
  rintro _ known ⟨response, id?, ⟨added, asking⟩, rfl⟩
  have header := response.header?_labels id?
    (decide ((App.destination request).method = "HEAD")) "x-snapshot-request" (by decide)
  constructor
  · rw [header]
    exact added
  · rw [header]
    exact asking

/-! ## Errands -/

/-- What is carried out: an operation of the engine, or a request to the application. -/
inductive Errand where
  | operation (command : Command)
  | request (r : Http.Request)

inductive Reply where
  | result (r : Result)
  | response (r : Response)

def Errand.conversation (app : App) : Errand → Conversation Reply
  | operation command => do return .result (← (carryOut app.engine command).run)
  | request r => do return .response (← app.respond r)

/-- A reply says that a version was added for a client, and how urgent a snapshot is. -/
inductive Urges (app : App) : Errand → Reply → String → Urgency → Prop where
  | result (client parent version : String) (segment : Bytes) (urgency : Urgency) :
      Urges app (.operation (.addVersion client parent segment))
        (.result (.ok (.versionAdded (.added version urgency)))) client urgency
  | response {request : Http.Request} {response : Response} {client parent : String}
      {segment : Bytes} {urgency : Urgency}
      (asked : app.asks request = some (.addVersion client parent segment))
      (ok : response.status = 200)
      (header : response.header? "x-snapshot-request" = urgency.header?) :
      Urges app (.request request) (.response response) client urgency

theorem operation_reckoned (app : App) (command : Command) :
    Leads Hears (fun reply known => ∀ client urgency,
        Urges app (.operation command) reply client urgency →
          Reckoned app.engine.policy client urgency known)
      (Errand.conversation app (.operation command)) [] := by
  unfold Errand.conversation
  refine Leads.bind ?_
  change Leads Hears _ _ (heard [])
  refine Leads.hears ((Attempting.carryOut app.engine command).mono ?_)
  intro result said concluded
  refine done ?_
  rintro client urgency ⟨⟩
  exact concluded.reckoned _ urgency rfl

theorem request_sent (app : App) (request : Http.Request) :
    Leads Hears (fun reply known => ∃ response, reply = .response response ∧
        Sent app.engine.policy (app.asks request) response known)
      (Errand.conversation app (.request request)) [] := by
  unfold Errand.conversation
  refine Leads.bind ((respond_sent app request).mono ?_)
  intro response known sent
  exact done ⟨response, rfl, sent⟩

theorem conversation_reckoned (app : App) (errand : Errand) :
    Leads Hears (fun reply known => ∀ client urgency, Urges app errand reply client urgency →
        Reckoned app.engine.policy client urgency known)
      (errand.conversation app) [] := by
  cases errand with
  | operation command => exact operation_reckoned app command
  | request request =>
    refine (request_sent app request).mono ?_
    rintro _ known ⟨response, rfl, added, -⟩ client urgency urges
    cases urges with
    | response asked ok header =>
      obtain ⟨sent, header', reckoned⟩ := added _ _ _ asked ok
      obtain rfl := Urgency.header?_injective (header.symm.trans header')
      exact reckoned

/-! ## Where a commit is in the log -/

theorem last_unique {α : Type} {p : α → Prop} {a a' b b' : List α} {x x' : α}
    (same : a ++ x :: b = a' ++ x' :: b') (hx : p x) (hx' : p x') (hb : ∀ y ∈ b, ¬ p y)
    (hb' : ∀ y ∈ b', ¬ p y) : a = a' ∧ x = x' := by
  rcases List.append_eq_append_iff.mp same with ⟨c, rfl, hc⟩ | ⟨c, rfl, hc⟩
  · cases c with
    | nil =>
      rw [List.nil_append, List.cons.injEq] at hc
      exact ⟨(List.append_nil a).symm, hc.1⟩
    | cons y c =>
      obtain ⟨-, rfl⟩ := List.cons.inj hc
      exact absurd hx' (hb x' (by simp))
  · cases c with
    | nil =>
      rw [List.nil_append, List.cons.injEq] at hc
      exact ⟨List.append_nil a', hc.1.symm⟩
    | cons y c =>
      obtain ⟨-, rfl⟩ := List.cons.inj hc
      exact absurd hx (hb' x (by simp))

/-- Something that is heard of a request. -/
def Spoken.heard? (i : Nat) (s : Spoken) : Option Told :=
  if s.request = i ∧ s.told.question.isAside = false then some s.told else none

namespace Log

theorem heard_of (log : Log) (i : Nat) : heard (log.of i) = log.filterMap (·.heard? i) := by
  unfold heard of
  rw [List.filter_filterMap]
  refine List.filterMap_congr fun s _ => ?_
  unfold Spoken.heard?
  by_cases own : s.request = i <;> cases aside : s.told.question.isAside <;> simp [own, aside]

def Silent (log : Log) (i : Nat) : Prop := ∀ s ∈ log, s.heard? i = none

instance (log : Log) (i : Nat) : Decidable (Silent log i) := List.decidableBAll _ _

/-- All that is heard of a request after some was said is that it read the time. -/
structure Reads (log said known : Log) (i : Nat) (now : Number) : Prop where
  waits : ∃ between, known = said ++ between ∧ Silent between i
  reads : ∃ later, log = known ++ ⟨i, now, .now, now⟩ :: later ∧ Silent later i

/-- A request had a version committed for a client, and then read the time. -/
structure Commits (log : Log) (i : Nat) (client : String) (said known : Log) (now : Number) :
    Prop where
  commit : ∃ earlier time parent version segment record,
    said = earlier ++ [⟨i, time, .commit client parent version segment record⟩]
  reading : log.Reads said known i now

theorem commits_of_heard {log : Log} {i : Nat} {before : List Told}
    {client parent version : String} {segment : Bytes} {record : Client} {now : Number}
    (clock : ∀ time answer, ⟨i, time, .now, answer⟩ ∈ log → time = answer)
    (all : heard (log.of i) =
      before ++ [.commit client parent version segment record, ⟨.now, now⟩]) :
    ∃ earlier time known, log.Reads
      (earlier ++ [⟨i, time, .commit client parent version segment record⟩]) known i now := by
  have spoken {s : Spoken} {told : Told} (h : s.heard? i = some told) : s = ⟨i, s.time, told⟩ := by
    unfold Spoken.heard? at h
    split at h
    · next own =>
      obtain rfl := Option.some.inj h
      rw [← own.1]
    · cases h
  rw [heard_of] at all
  obtain ⟨first, rest, rfl, -, all⟩ := List.filterMap_eq_append_iff.mp all
  obtain ⟨more, commit, rest, rfl, -, committed, all⟩ := List.filterMap_eq_cons_iff.mp all
  obtain ⟨between, reading, later, rfl, silent, read, all⟩ := List.filterMap_eq_cons_iff.mp all
  rw [spoken committed, spoken read] at clock ⊢
  obtain same : reading.time = now := clock _ _ (by simp)
  rw [same]
  refine ⟨first ++ more, commit.time, _, ⟨between, rfl, silent⟩, later, ?_,
    List.filterMap_eq_nil_iff.mp all⟩
  simp

theorem Commits.unique {log : Log} {i : Nat} {client client' : String}
    {said said' known known' : Log} {now now' : Number}
    (commits : log.Commits i client said known now)
    (commits' : log.Commits i client' said' known' now') :
    said = said' ∧ known = known' ∧ now = now' := by
  have not_heard {log : Log} (silent : Silent log i) :
      ∀ s ∈ log, ¬ (s.heard? i).isSome = true := fun s hs => by simp [silent s hs]
  have heard {time : Number} {question : Ask} {answer : question.Answer}
      (aside : question.isAside = false) :
      ((⟨i, time, question, answer⟩ : Spoken).heard? i).isSome = true := by
    simp [Spoken.heard?, aside]
  obtain ⟨⟨earlier, time, parent, version, segment, record, rfl⟩, ⟨between, rfl, silent⟩,
    later, split, ended⟩ := commits
  obtain ⟨⟨earlier', time', parent', version', segment', record', rfl⟩, ⟨between', rfl, silent'⟩,
    later', split', ended'⟩ := commits'
  obtain ⟨known, reading⟩ := last_unique (p := fun s => (s.heard? i).isSome = true)
    (split.symm.trans split') (heard rfl) (heard rfl) (not_heard ended) (not_heard ended')
  rw [List.append_assoc, List.append_assoc, List.singleton_append, List.singleton_append] at known
  obtain ⟨rfl, commit⟩ := last_unique (p := fun s => (s.heard? i).isSome = true)
    known (heard rfl) (heard rfl) (not_heard silent) (not_heard silent')
  obtain ⟨-, rest⟩ := List.append_inj known rfl
  obtain ⟨-, rfl⟩ := List.cons.inj rest
  cases commit
  cases reading
  exact ⟨rfl, rfl, rfl⟩

theorem time_of_mem {log : Log} {e : Answered} (he : e ∈ log.history) :
    ∃ s ∈ log, s.time = e.time := by
  obtain ⟨⟨i, time, question, answer⟩, hs, hcall⟩ := List.mem_filterMap.mp he
  refine ⟨_, hs, ?_⟩
  cases question with
  | store c =>
    obtain rfl := Option.some.inj hcall
    rfl
  | freshId | now | stopwatch | note => cases hcall

end Log

namespace Traffic

variable {α : Type} {store : Backing} {conversations : List (Conversation α)}
  {moments : List Moment}

theorem read_time (i : Nat) (time answer : Number)
    (hs : ⟨i, time, .now, answer⟩ ∈ (run store conversations moments).log) : time = answer := by
  obtain ⟨earlier, later, split⟩ := List.append_of_mem hs
  obtain ⟨before, moment, after, -, -, same, read⟩ := said_in split
  exact same.symm.trans read

theorem committed (new : store.IsNew) {earlier later : Log} {i : Nat} {time : Number}
    {client parent version : String} {segment : Bytes} {record : Client}
    (split : (run store conversations moments).log =
      earlier ++ ⟨i, time, .commit client parent version segment record⟩ :: later) :
    ∃ b : Backing, record = (ledger client (Log.history
      (earlier ++ [⟨i, time, .commit client parent version segment record⟩]))).record b.stamp
        client := by
  obtain ⟨before, moment, after, -, rfl, rfl, answer⟩ := said_in split
  have tracks : Recorded.Tracks ⟨(run store conversations before).store,
      (run store conversations before).log.history⟩ := Traffic.tracks new before
  refine ⟨(run store conversations before).store, ?_⟩
  rw [Log.history_append]
  refine tracks.committed ?_
  unfold Moment.answer at answer
  dsimp only at answer
  cases hm : moment.outage with
  | none => simpa [hm] using answer
  | some failure => simp [hm] at answer

end Traffic

/-! ## Runs of errands -/

/-- Errands that are carried out by one application and its engine, in turns. -/
def carried (app : App) (start : Backing) (errands : List Errand) (moments : List Moment) :
    Traffic Reply :=
  Traffic.run start (errands.map (·.conversation app)) moments

/-- An errand has added a version for a client, and was told how urgent a snapshot is. -/
def Added (app : App) (errands : List Errand) (t : Traffic Reply) (i : Nat) (client : String)
    (urgency : Urgency) : Prop :=
  ∃ errand reply, errands[i]? = some errand ∧ t.Done i reply ∧ Urges app errand reply client urgency

section

variable {app : App} {start : Backing} {errands : List Errand} {moments : List Moment} {i : Nat}
  {client : String} {urgency : Urgency} {said known : Log} {taken : Option Number} {since : Nat}
  {now : Number}

theorem Added.urges {t : Traffic Reply} (added : Added app errands t i client urgency)
    {errand : Errand} {reply : Reply} (hi : errands[i]? = some errand) (done : t.Done i reply) :
    Urges app errand reply client urgency := by
  obtain ⟨errand', reply', hi', done', urges⟩ := added
  obtain rfl := Option.some.inj (hi.symm.trans hi')
  obtain ⟨rfl⟩ := Option.some.inj (done.symm.trans done')
  exact urges

section

variable (added : Added app errands (carried app start errands moments) i client urgency)
include added

theorem Added.reckoned :
    Reckoned app.engine.policy client urgency
      (heard ((carried app start errands moments).log.of i)) := by
  obtain ⟨errand, reply, hi, done, urges⟩ := added
  have start : (errands.map (·.conversation app))[i]? = some (errand.conversation app) := by
    rw [List.getElem?_map, hi, Option.map_some]
  exact (Traffic.hears start (conversation_reckoned app errand) moments done).of_done _ _ urges

theorem Added.commits :
    ∃ said known now, (carried app start errands moments).log.Commits i client said known now := by
  obtain ⟨before, parent, version, segment, record, now, all, -⟩ := added.reckoned
  obtain ⟨earlier, time, known, reads⟩ := Log.commits_of_heard (Traffic.read_time i) all
  exact ⟨_, known, now, ⟨earlier, time, parent, version, segment, record, rfl⟩, reads⟩

/-- The urgency that is told follows from the calls that were granted before, and from the time
that was read. -/
theorem Added.urgency_eq (new : start.IsNew)
    (commits : (carried app start errands moments).log.Commits i client said known now)
    (known : Since client said.history taken since) (clock : ∀ time ∈ taken, time.isNaN = false) :
    urgency = app.engine.policy.urgency (.ofNat since) taken now := by
  obtain ⟨before, parent, version, segment, record, read, all, rfl⟩ := added.reckoned
  obtain ⟨earlier, time, known', reads⟩ := Log.commits_of_heard (Traffic.read_time i) all
  obtain ⟨rfl, -, rfl⟩ := commits.unique
    ⟨⟨earlier, time, parent, version, segment, record, rfl⟩, reads⟩
  obtain ⟨⟨between, rfl, -⟩, later, split, -⟩ := reads
  have split' : (carried app start errands moments).log =
      earlier ++ ⟨i, time, .commit client parent version segment record⟩ ::
        (between ++ ⟨i, now, .now, now⟩ :: later) := split.trans (by simp)
  obtain ⟨b, told⟩ := Traffic.committed new split'
  obtain ⟨count, time⟩ := record_since b known clock
  rw [SnapshotPolicy.urgencyOf, told, count, time]

end

/-- The urgency that the engine has told of a version. -/
def Traffic.urgency? (t : Traffic Reply) (i : Nat) : Option Urgency :=
  match t.conversations[i]? with
  | some (.done (.result (.ok (.versionAdded (.added _ urgency))))) => some urgency
  | _ => none

theorem Added.of_urgency? {t : Traffic Reply} {parent : String} {segment : Bytes}
    (hi : errands[i]? = some (.operation (.addVersion client parent segment)))
    (told : t.urgency? i = some urgency) : Added app errands t i client urgency := by
  unfold Traffic.urgency? at told
  split at told
  · next version found done =>
    obtain rfl := Option.some.inj told
    exact ⟨_, _, hi, done, .result ..⟩
  · cases told

end

/-- A request had a version committed for a client and then read the time, when so many versions
had been committed since the last snapshot. -/
structure Log.Counts (log : Log) (i : Nat) (client : String) (said known : Log) (now : Int)
    (taken : Option Int) (since : Nat) : Prop
    extends log.Commits i client said known (.ofInt now) where
  counted : Since client said.history (taken.map .ofInt) since

/-- What is told in a run of how urgent snapshots are. -/
structure AsksForSnapshots (app : App) (versions days : Nat) (errands : List Errand)
    (moments : List Moment) (t : Traffic Reply) : Prop where
  /-- The engine asks for a snapshot exactly if its urgency is not none. -/
  operation : ∀ i client parent segment version urgency,
    errands[i]? = some (.operation (.addVersion client parent segment)) →
    t.Done i (.result (.ok (.versionAdded (.added version urgency)))) →
      Added app errands t i client urgency ∧
        ((AddVersionAnswer.added version urgency).asksSnapshot = true ↔ urgency ≠ .none)
  /-- Over HTTP the header is there exactly then. -/
  request : ∀ i request response, errands[i]? = some (.request request) →
    t.Done i (.response response) →
      (∀ client parent segment, app.asks request = some (.addVersion client parent segment) →
        response.status = 200 → ∃ urgency, Added app errands t i client urgency) ∧
      (response.header? "x-snapshot-request" ≠ none ↔
        ∃ client urgency, Added app errands t i client urgency ∧ urgency ≠ .none)
  counts : ∀ i client urgency, Added app errands t i client urgency →
    ∃ said known now taken since, t.log.Counts i client said known now taken since
  /-- The urgency is the one that is due by the versions committed since the last snapshot, this
  one included, and by the days since then. -/
  due : ∀ i client urgency said known now taken since, Added app errands t i client urgency →
    t.log.Counts i client said known now taken since →
    SnapshotPolicy.Exact versions since taken now →
      urgency = .due versions days since taken now
  /-- Between two snapshots it never goes down if the clock never goes back. -/
  rising : (moments.Pairwise fun a b => a.time.le b.time) →
    ∀ i client urgency said known now taken since j urgency' later known' now' taken' since',
      Added app errands t i client urgency → t.log.Counts i client said known now taken since →
      Added app errands t j client urgency' →
      t.log.Counts j client (said ++ later) known' now' taken' since' →
      known <+: known' → (∀ e ∈ later.history, e.snapshot? client = none) →
        urgency.rank ≤ urgency'.rank
  /-- After one and a half times the versions it is high until the next snapshot. -/
  overdue : ∀ i client urgency said known now taken since, Added app errands t i client urgency →
    t.log.Counts i client said known now taken since → Urgency.Exact since versions →
    3 * versions / 2 ≤ since → urgency = .high

section

variable {log said known : Log} {i : Nat} {client : String} {now : Int} {taken : Option Int}
  {since : Nat}

theorem Log.Counts.before (counts : log.Counts i client said known now taken since) :
    said <+: known ∧ known ++ [⟨i, .ofInt now, .now, .ofInt now⟩] <+: log := by
  obtain ⟨⟨-, ⟨between, rfl, -⟩, later, rfl, -⟩, -⟩ := counts
  exact ⟨List.prefix_append .., later, by simp⟩

theorem Log.Counts.later {j : Nat} {later known' : Log} {now' : Int} {taken' : Option Int}
    {since' : Nat} (counts : log.Counts i client said known now taken since)
    (counts' : log.Counts j client (said ++ later) known' now' taken' since')
    (quiet : ∀ e ∈ later.history, e.snapshot? client = none) : taken' = taken ∧ since ≤ since' := by
  have grown := counts.counted.append quiet
  rw [← Log.history_append] at grown
  obtain ⟨same, more⟩ := counts'.counted.unique grown
  have injective : Function.Injective Number.ofInt := fun a b h => by simpa using h
  exact ⟨Option.map_injective injective same, by omega⟩

theorem Log.Counts.now_le {j : Nat} {client' : String} {said' known' : Log} {now' : Int}
    {taken' : Option Int} {since' : Nat} (counts : log.Counts i client said known now taken since)
    (counts' : log.Counts j client' said' known' now' taken' since') (order : known <+: known')
    (clock : log.Pairwise fun a b => a.time.le b.time) : now ≤ now' := by
  obtain ⟨-, hread⟩ := counts.before
  obtain ⟨-, hread'⟩ := counts'.before
  rcases order.length_le.eq_or_lt with same | shorter
  · obtain rfl := order.eq_of_length same
    have both := (List.prefix_of_prefix_length_le hread hread' (by simp)).eq_of_length (by simp)
    have read := List.append_cancel_left both
    simp only [List.cons.injEq, Spoken.mk.injEq, Number.finite.injEq, Int.cast_inj] at read
    exact read.1.2.1.le
  · have hp : known ++ [⟨i, .ofInt now, .now, .ofInt now⟩] <+: known' :=
      List.prefix_of_prefix_length_le hread ((List.prefix_append ..).trans hread')
        (by rwa [List.length_append])
    have read : (⟨i, .ofInt now, .now, .ofInt now⟩ : Spoken) ∈ known' := hp.subset (by simp)
    obtain ⟨-, -, ordered⟩ := List.pairwise_append.mp (clock.sublist hread'.sublist)
    have hle := ordered _ read _ (List.mem_singleton_self _)
    simpa [Number.le] using hle

end

section

variable {app : App} {start : Backing} {errands : List Errand} {moments : List Moment} {i : Nat}
  {client : String} {urgency : Urgency} {said known : Log} {now : Int} {taken : Option Int}
  {since : Nat}

theorem carried_times (clock : ∀ moment ∈ moments, ∃ time, moment.time = .ofInt time)
    {s : Spoken} (hs : s ∈ (carried app start errands moments).log) :
    ∃ time, s.time = .ofInt time := by
  have hm := (Traffic.times_sublist moments).subset (List.mem_map_of_mem hs)
  obtain ⟨moment, hmoment, same⟩ := List.mem_map.mp hm
  rw [← same]
  exact clock moment hmoment

theorem carried_ordered (clock : moments.Pairwise fun a b => a.time.le b.time) :
    (carried app start errands moments).log.Pairwise fun a b => a.time.le b.time := by
  rw [← List.pairwise_map (R := fun a b : Number => a.le b = true)] at clock ⊢
  exact clock.sublist (Traffic.times_sublist moments)

theorem carried_sent {request : Http.Request} {response : Response}
    (hi : errands[i]? = some (.request request))
    (done : (carried app start errands moments).Done i (.response response)) :
    Sent app.engine.policy (app.asks request) response
      (heard ((carried app start errands moments).log.of i)) := by
  have begins : (errands.map (·.conversation app))[i]? =
      some (Errand.conversation app (.request request)) := by
    rw [List.getElem?_map, hi, Option.map_some]
  obtain ⟨_, ⟨rfl⟩, sent⟩ := (Traffic.hears begins (request_sent app request) moments done).of_done
  exact sent

theorem Added.of_response {request : Http.Request} {response : Response} {parent : String}
    {segment : Bytes} (hi : errands[i]? = some (.request request))
    (done : (carried app start errands moments).Done i (.response response))
    (asked : app.asks request = some (.addVersion client parent segment))
    (ok : response.status = 200) :
    ∃ urgency, response.header? "x-snapshot-request" = urgency.header? ∧
      Added app errands (carried app start errands moments) i client urgency := by
  obtain ⟨urgency, header, -⟩ := (carried_sent hi done).1 client parent segment asked ok
  exact ⟨urgency, header, _, _, hi, done, .response asked ok header⟩

theorem Added.counts (clock : ∀ moment ∈ moments, ∃ time, moment.time = .ofInt time)
    (added : Added app errands (carried app start errands moments) i client urgency) :
    ∃ said known now taken since,
      (carried app start errands moments).log.Counts i client said known now taken since := by
  obtain ⟨said, known, now, commits⟩ := added.commits
  obtain ⟨later, split, -⟩ := commits.reading.reads
  obtain ⟨time, rfl⟩ := carried_times clock (s := ⟨i, now, .now, now⟩) (by rw [split]; simp)
  obtain ⟨between, rfl, -⟩ := commits.reading.waits
  obtain ⟨taken, since, counted⟩ := exists_since client said.history
  cases taken with
  | none => exact ⟨said, _, time, none, since, commits, counted⟩
  | some taken =>
    obtain ⟨e, he, rfl⟩ := counted.mem
    obtain ⟨s, hs, same⟩ := Log.time_of_mem he
    obtain ⟨taken, htaken⟩ := carried_times clock (s := s) (by rw [split]; simp [hs])
    rw [← same, htaken] at counted
    exact ⟨said, _, time, some taken, since, commits, counted⟩

theorem Added.urgency_of_counts (new : start.IsNew)
    (added : Added app errands (carried app start errands moments) i client urgency)
    (counts : (carried app start errands moments).log.Counts i client said known now taken since) :
    urgency = app.engine.policy.urgency (.ofNat since) (taken.map .ofInt) (.ofInt now) := by
  refine added.urgency_eq new counts.toCommits counts.counted ?_
  rintro _ htime
  obtain ⟨time, -, rfl⟩ := Option.map_eq_some_iff.mp htime
  rfl

end

/-- **Asking for snapshots.** Whatever else goes on in a run from a new store, and whatever fails
in it, how urgent a snapshot is told to be follows from the versions committed since the last one
and from its age, as far as the numbers are exact. -/
theorem asks_for_snapshots {start : Backing} (new : start.IsNew) {app : App} {versions days : Nat}
    (policy : app.engine.policy = ⟨.ofNat versions, .ofNat days⟩) (errands : List Errand)
    {moments : List Moment} (clock : ∀ moment ∈ moments, ∃ time, moment.time = .ofInt time) :
    AsksForSnapshots app versions days errands moments (carried app start errands moments) := by
  constructor
  case operation =>
    intro i client parent segment version urgency hi done
    refine ⟨⟨_, _, hi, done, .result ..⟩, ?_⟩
    simp [AddVersionAnswer.asksSnapshot]
  case request =>
    intro i request response hi done
    refine ⟨fun client parent segment asked ok => ?_, fun given => ?_, ?_⟩
    · obtain ⟨urgency, -, added⟩ := Added.of_response hi done asked ok
      exact ⟨urgency, added⟩
    · obtain ⟨ok, client, parent, segment, asked⟩ := (carried_sent hi done).2 given
      obtain ⟨urgency, header, added⟩ := Added.of_response hi done asked ok
      refine ⟨client, urgency, added, ?_⟩
      rintro rfl
      exact given header
    · rintro ⟨client, urgency, added, urgent⟩
      cases added.urges hi done with
      | response asked ok header =>
        rw [header]
        cases urgency with
        | none => exact absurd rfl urgent
        | low | high => nofun
  case counts => exact fun i client urgency added => added.counts clock
  case due =>
    intro i client urgency said known now taken since added counts exact
    rw [added.urgency_of_counts new counts, policy, SnapshotPolicy.urgency_eq_due exact]
  case rising =>
    intro ordered i client urgency said known now taken since j urgency' later known' now' taken'
      since' added counts added' counts' order quiet
    obtain ⟨rfl, more⟩ := counts.later counts' quiet
    have passed : (Number.ofInt now).le (.ofInt now') = true :=
      decide_eq_true (Int.cast_le.mpr (counts.now_le counts' order (carried_ordered ordered)))
    rw [added.urgency_of_counts new counts, added'.urgency_of_counts new counts']
    exact app.engine.policy.urgency_mono (by simpa using more) passed taken'
  case overdue =>
    intro i client urgency said known now taken since added counts exact many
    rw [added.urgency_of_counts new counts, policy, SnapshotPolicy.urgency_eq_high exact many]

/-! ## Some runs -/

/-- An application with targets for both measures. -/
def asking (versions days : Nat) : App :=
  { engine := { policy := ⟨.ofNat versions, .ofNat days⟩ } }

/-- A version is added, its snapshot is stored, and another version is added. -/
def oneSnapshot : List Errand :=
  [.operation (.addVersion "c" nilId [1]), .operation (.addSnapshot "c" "v1" [2]),
    .operation (.addVersion "c" "v1" [3])]

/-- The first two come one after the other at one time. -/
def snapshotAt (time : Int) : List Moment :=
  List.replicate 7 ⟨⟨0, .ofInt time, "v1"⟩, none⟩ ++ List.replicate 3 ⟨⟨1, .ofInt time, ""⟩, none⟩

/-- The third comes at another time. -/
def nextAt (first last : Int) : List Moment :=
  snapshotAt first ++ List.replicate 5 ⟨⟨2, .ofInt last, "v2"⟩, none⟩

theorem asks_for_snapshots_daily :
    (Backing.memory .empty).IsNew ∧
      (asking 9 1).engine.policy = ⟨.ofNat 9, .ofNat 1⟩ ∧
      (∀ moment ∈ nextAt 0 172800000, ∃ time, moment.time = .ofInt time) ∧
      Added (asking 9 1) oneSnapshot
        (carried (asking 9 1) (.memory .empty) oneSnapshot (nextAt 0 172800000)) 2 "c" .high ∧
      AsksForSnapshots (asking 9 1) 9 1 oneSnapshot (nextAt 0 172800000)
        (carried (asking 9 1) (.memory .empty) oneSnapshot (nextAt 0 172800000)) := by
  have clock : ∀ moment ∈ nextAt 0 172800000, ∃ time, moment.time = .ofInt time := by
    simp only [nextAt, snapshotAt, List.mem_append, List.mem_replicate]
    rintro _ ((⟨-, rfl⟩ | ⟨-, rfl⟩) | ⟨-, rfl⟩) <;> exact ⟨_, rfl⟩
  exact ⟨.memory, rfl, clock, .of_urgency? rfl (by decide +kernel),
    asks_for_snapshots .memory rfl oneSnapshot clock⟩

/-- The snapshot is older than `2 ^ 53` milliseconds. -/
def longAgo : Traffic Reply :=
  carried (asking 1000 104249992) (.memory .empty) oneSnapshot
    (nextAt (-4503599654400000) 4503599654399999)

/-- A version that is committed before another, but is told of two days after it. -/
def overlapping : Traffic Reply :=
  carried (asking 9 1) (.memory .empty) (oneSnapshot ++ [.operation (.addVersion "c" "v2" [4])])
    (snapshotAt 0 ++ List.replicate 3 ⟨⟨2, .ofInt 0, "v2"⟩, none⟩ ++
      List.replicate 5 ⟨⟨3, .ofInt 0, "v3"⟩, none⟩ ++
        List.replicate 2 ⟨⟨2, .ofInt 172800000, ""⟩, none⟩)

/-- Where numbers are not exact a snapshot is asked for a day too soon, or is not urgent when it
should be. And of two versions that are added at a time, the second may be told less. -/
theorem asks_too_soon :
    (∃ said known,
      longAgo.log.Counts 2 "c" said known 4503599654399999 (some (-4503599654400000)) 1 ∧
      longAgo.urgency? 2 = some .low ∧
      Urgency.due 1000 104249992 1 (some (-4503599654400000)) 4503599654399999 = .none) ∧
    (Urgency.level (.ofNat 4503599627370499) (.ofNat 3002399751580333) = .low ∧
      Urgency.reached 4503599627370499 3002399751580333 = .high) ∧
    (∃ said later known known',
      overlapping.log.Counts 2 "c" said known 172800000 (some 0) 1 ∧
      overlapping.log.Counts 3 "c" (said ++ later) known' 0 (some 0) 2 ∧
      (overlapping.log.Pairwise fun a b => a.time.le b.time) ∧
      (∀ e ∈ later.history, e.snapshot? "c" = none) ∧
      overlapping.urgency? 2 = some .high ∧ overlapping.urgency? 3 = some .none) := by
  have long : longAgo.log.Counts 2 "c" (longAgo.log.take 13) (longAgo.log.take 13)
      4503599654399999 (some (-4503599654400000)) 1 := {
    commit := ⟨longAgo.log.take 12, .ofInt 4503599654399999, "v1", "v2", [3],
      ⟨"c", "v2", some "v1", 1, some (.ofInt (-4503599654400000))⟩, by decide +kernel⟩
    reading := {
      waits := ⟨[], by simp, List.forall_mem_nil _⟩
      reads := ⟨longAgo.log.drop 14, by decide +kernel, by decide +kernel⟩ }
    counted := by decide +kernel }
  have first : overlapping.log.Counts 2 "c" (overlapping.log.take 13) (overlapping.log.take 18)
      172800000 (some 0) 1 := {
    commit := ⟨overlapping.log.take 12, .ofInt 0, "v1", "v2", [3],
      ⟨"c", "v2", some "v1", 1, some (.ofInt 0)⟩, by decide +kernel⟩
    reading := {
      waits := ⟨(overlapping.log.drop 13).take 5, by decide +kernel, by decide +kernel⟩
      reads := ⟨overlapping.log.drop 19, by decide +kernel, by decide +kernel⟩ }
    counted := by decide +kernel }
  have second : overlapping.log.Counts 3 "c"
      (overlapping.log.take 13 ++ (overlapping.log.drop 13).take 3) (overlapping.log.take 16) 0
      (some 0) 2 := {
    commit := ⟨overlapping.log.take 15, .ofInt 0, "v2", "v3", [4],
      ⟨"c", "v3", some "v1", 2, some (.ofInt 0)⟩, by decide +kernel⟩
    reading := {
      waits := ⟨[], by decide +kernel, List.forall_mem_nil _⟩
      reads := ⟨overlapping.log.drop 17, by decide +kernel, by decide +kernel⟩ }
    counted := by decide +kernel }
  exact ⟨⟨_, _, long, by decide +kernel, by decide +kernel⟩,
    ⟨by decide +kernel, by decide +kernel⟩,
    _, _, _, _, first, second, by decide +kernel, by decide +kernel, by decide +kernel,
    by decide +kernel⟩

end Scenario

end TaskSync
