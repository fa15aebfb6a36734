import TaskSync.Proofs.Immutability
import TaskSync.Proofs.Outages

/-!
# What a request may do to the store

Every way in which a request is refused or fails comes before its write. What is
left is the store as it was, but for an empty record of a new client, or the one
version or snapshot that the answer tells of.
-/

namespace TaskSync

namespace Scenario

open Store
open Http (App Command Response)

/-! ## Commands -/

/-- What a command is answered, and what it has left in the store then. -/
inductive Concludes (engine : Engine) (time : Number) (b : Backing) :
    Command → Response → Backing → Prop where
  | unknown (command : Command) :
      Concludes engine time b command (.plain 403 "Forbidden: unknown client") b
  | failed {command : Command} {after : Backing} (writes : ∀ client, command ≠ .getSnapshot client)
      (enrols : Enrols engine command.client b after) :
      Concludes engine time b command (.plain 500 "Internal Server Error") after
  | added {client parent version : String} {segment : Bytes} {after : Backing} (urgency : Urgency)
      (appends : Appends b client ⟨version, parent, segment⟩ after) :
      Concludes engine time b (.addVersion client parent segment)
        (Command.sendAdded (.added version urgency)) after
  | conflict {client parent : String} {segment : Bytes} {after : Backing} (head : String)
      (enrols : Enrols engine client b after) :
      Concludes engine time b (.addVersion client parent segment)
        (Command.sendAdded (.conflict head)) after
  | told {client parent : String} {answer : ChildAnswer} {after : Backing}
      (enrols : Enrols engine client b after)
      (found : ∀ version, answer = .found version → after = b) :
      Concludes engine time b (.getChildVersion client parent) (Command.sendChild answer) after
  | taken {client version : String} {data : Bytes} {after : Backing}
      (takes : Takes b client ⟨version, data⟩ time (engine.retention = .pruneOnSnapshot) after) :
      Concludes engine time b (.addSnapshot client version data) { status := 200 } after
  | rejected {client version : String} {data : Bytes} {after : Backing}
      (enrols : Enrols engine client b after) :
      Concludes engine time b (.addSnapshot client version data) { status := 200 } after
  | read (client : String) (response : Response) :
      Concludes engine time b (.getSnapshot client) response b

namespace Concludes

variable {engine : Engine} {time : Number} {b after : Backing} {command : Command}
  {response : Response} (concludes : Concludes engine time b command response after)
include concludes

theorem others {stamp : Number → Option Number} {h : History} (keeps : b.Keeps stamp h)
    {other : String} (another : other ≠ command.client) :
    after.holding other = b.holding other := by
  cases concludes with
  | unknown | read => rfl
  | failed writes enrols => exact enrols.others keeps another
  | added urgency appends => exact appends.others other another
  | conflict head enrols => exact enrols.others keeps another
  | told enrols found => exact enrols.others keeps another
  | taken takes => exact takes.others other another
  | rejected enrols => exact enrols.others keeps another

theorem enrols_of_failed (status : response.status ≠ 200) :
    Enrols engine command.client b after := by
  cases concludes with
  | unknown | read => exact .same
  | failed writes enrols => exact enrols
  | added urgency appends => cases urgency <;> exact absurd rfl status
  | conflict head enrols => exact enrols
  | told enrols found => exact enrols
  | taken takes => exact absurd rfl status
  | rejected enrols => exact absurd rfl status

theorem unchanged_of_refused (status : response.status = 400 ∨ response.status = 403) :
    after = b := by
  cases concludes with
  | unknown | read => rfl
  | added urgency appends => cases urgency <;> exact absurd status nofun
  | @told client parent answer after enrols found => cases answer <;> exact absurd status nofun
  | failed | conflict | taken | rejected => exact absurd status nofun

end Concludes

theorem Concludes.added_version {engine : Engine} {time : Number} {b after : Backing}
    {client parent : String} {segment : Bytes} {response : Response}
    (concludes : Concludes engine time b (.addVersion client parent segment) response after)
    (status : response.status = 200) :
    ∃ version urgency, response = Command.sendAdded (.added version urgency) ∧
      Appends b client ⟨version, parent, segment⟩ after := by
  cases concludes with
  | added urgency appends => exact ⟨_, urgency, rfl, appends⟩
  | unknown | failed | conflict => cases status

theorem Concludes.taken_or_not {engine : Engine} {time : Number} {b after : Backing}
    {client version : String} {data : Bytes} {response : Response}
    (concludes : Concludes engine time b (.addSnapshot client version data) response after) :
    Enrols engine client b after ∨
      Takes b client ⟨version, data⟩ time (engine.retention = .pruneOnSnapshot) after := by
  cases concludes with
  | taken takes => exact .inr takes
  | rejected enrols => exact .inl enrols
  | failed writes enrols => exact .inl enrols
  | unknown => exact .inl .same

theorem Concludes.unchanged_of_found {engine : Engine} {time : Number} {b after : Backing}
    {client parent : String} {response : Response}
    (concludes : Concludes engine time b (.getChildVersion client parent) response after)
    (status : response.status = 200) : after = b := by
  cases concludes with
  | @told _ _ answer _ enrols found =>
    cases answer with
    | found version => exact found version rfl
    | upToDate | gone => cases status
  | unknown | failed => cases status

theorem Concludes.unchanged_of_read {engine : Engine} {time : Number} {b after : Backing}
    {client : String} {response : Response}
    (concludes : Concludes engine time b (.getSnapshot client) response after) : after = b := by
  cases concludes with
  | unknown | read => rfl
  | failed writes enrols => exact absurd rfl (writes client)

section

variable {engine : Engine} {time : Number} {b after : Backing} {command : Command}
  {response : Response} {stamp : Number → Option Number} {h : History}

theorem Concludes.of_outage {failure : Failure} (outage : failure.IsOutage)
    (looked : Looked (engine.enrols command) command.client b after)
    (answers : Answers (.error failure) response) :
    Concludes engine time b command response after := by
  cases answers with
  | unknown => cases outage
  | broken =>
    cases command with
    | getSnapshot client =>
      obtain rfl := looked.same
      exact .read client _
    | addVersion | getChildVersion | addSnapshot => exact .failed nofun looked.enrols

theorem Own.concludes {c : Call} (own : Own engine command c) {record : Client} {reply : c.Reply}
    {value : Value} (gives : Gives engine record c reply value)
    (answers : Answers (.ok value) response) {between : Backing} {h' : History} {row : ClientRow}
    (keeps : b.Keeps stamp h) (keeps' : between.Keeps stamp h')
    (looked : Looked (engine.enrols command) command.client b between)
    (fresh : c.IsFresh (ledger c.client h')) (known : between.row? c.client = some row)
    (called : between.call 0 time c = (.ok reply, after)) :
    Concludes engine time b command response after := by
  have enrols := looked.enrols
  have refused (granted : c.granted (.ok reply) = false) : after = between :=
    have same := (keeps'.call_eq time (congrArg Prod.fst called) granted).symm.trans called
    (Prod.mk.inj same).2.symm
  cases own with
  | addVersion client parent version segment =>
    cases gives with
    | added =>
      cases answers
      exact .added _ (enrols.appends keeps keeps' known fresh called)
    | conflict =>
      cases answers
      obtain rfl := refused rfl
      exact .conflict _ enrols
  | getChildVersion client parent =>
    obtain rfl := refused rfl
    have found : after.child? client parent = reply :=
      Except.ok.inj (congrArg Prod.fst
        ((keeps'.getVersionByParent time client parent).symm.trans called))
    cases gives with
    | found =>
      cases answers
      exact .told enrols fun _ _ => enrols.same_of_child keeps found
    | upToDate | gone =>
      cases answers
      exact .told enrols nofun
  | @addSnapshot client version filled data =>
    cases gives with
    | accepted =>
      cases answers
      exact .taken (enrols.takes keeps keeps' known filled called)
    | rejected =>
      cases answers
      obtain rfl := refused rfl
      exact .rejected enrols
  | getSnapshot client =>
    obtain rfl := refused rfl
    obtain rfl := looked.same
    exact .read client _

theorem Attempts.concludes {calls : List Placed} {result : Result}
    (attempts : Attempts engine command calls result)
    (made : Calls (fun b c => Met time h b (.store c)) b calls after) (keeps : b.Keeps stamp h)
    (answers : Answers result response) : Concludes engine time b command response after := by
  cases attempts with
  | halted seeks =>
    obtain ⟨outage, looked⟩ := seeks.left made keeps
    exact .of_outage outage looked answers
  | unknown seeks =>
    obtain ⟨-, same, -⟩ := seeks.left made keeps
    obtain rfl := same rfl
    cases answers with
    | unknown => exact .unknown command
    | broken other => exact absurd rfl (other _)
  | nothing seeks reads =>
    obtain ⟨-, same, -⟩ := seeks.left made keeps
    obtain rfl := same rfl
    rw [reads]
    exact .read _ _
  | ofNothing seeks empty =>
    obtain ⟨looked, -⟩ := seeks.left made keeps
    have enrols := looked.enrols
    cases answers
    rw [empty]
    exact .rejected enrols
  | failed seeks own failure =>
    obtain ⟨between, looked, outage | granted⟩ := own.left seeks made keeps
    · obtain ⟨_, ⟨rfl⟩, outage, rfl⟩ := outage
      exact .of_outage outage looked answers
    · obtain ⟨value, _, _, failed, -⟩ := granted
      cases failed
  | answered seeks own gives =>
    obtain ⟨between, looked, outage | granted⟩ := own.left seeks made keeps
    · obtain ⟨_, failed, -⟩ := outage
      cases failed
    obtain ⟨_, h', row, ⟨rfl⟩, keeps', fresh, known, called⟩ := granted
    exact own.concludes gives answers keeps keeps' looked fresh known called

end

theorem Outages.settle {app : App} (keeps : b.Keeps stamp h) (command : Command)
    (method path : String) : Leads (Met time h) (Concludes app.engine time b command)
      (app.settle command method path) b := by
  refine Leads.settle (Leads.ignoresAsides Met.callsOnly) method path ?_
  refine ((Attempting.carryOut app.engine command).calls Met.callsOnly b).mono ?_
  rintro result after ⟨said, concluded, made⟩ response answers
  exact concluded.attempts.concludes made keeps answers

/-! ## Requests in a world -/

namespace World

/-- Calls may fail while the store is out of reach, and else are answered by it. -/
def OnlyOutages (w : World) : Prop :=
  ∀ m ∈ w.misbehaviours, ∃ failure, m.answer = .failed failure ∧ failure.IsOutage

variable {h : History} {w : World}

theorem OnlyOutages.callFromEngine (outages : w.OnlyOutages) (c : Call)
    (fresh : c.IsFresh (ledger c.client h)) :
    ∃ reply backing, (World.callFromEngine c).run w =
        (reply, { w with made := methodOf c :: w.made, backing }) ∧
      Met w.now h w.backing (.store c) reply backing := by
  simp only [World.callFromEngine, StateT.run_bind, StateT.run_modify, StateT.run_get, pure_bind]
  split
  · next reply due =>
    obtain ⟨m, found, answered⟩ := Option.bind_eq_some_iff.mp due
    obtain ⟨failure, failed, outage⟩ := outages m (List.mem_of_find?_eq_some found)
    rw [failed] at answered
    obtain rfl := Option.some.inj answered
    exact ⟨_, _, rfl, .outage c outage⟩
  · exact ⟨_, _, rfl, .store c fresh⟩

theorem OnlyOutages.respond (outages : w.OnlyOutages) {question : Ask}
    (fresh : ∀ c, question = .store c → c.IsFresh (ledger c.client h)) :
    ∃ answer after, (World.respond question).run w = (answer, after) ∧
      Met w.now h w.backing question answer after.backing ∧ after.now = w.now ∧
        after.OnlyOutages := by
  cases question with
  | store c =>
    obtain ⟨reply, backing, called, met⟩ := outages.callFromEngine c (fresh c rfl)
    exact ⟨_, _, called, met, rfl, outages⟩
  | freshId => exact ⟨_, _, rfl, .freshId _, rfl, outages⟩
  | now => exact ⟨_, _, rfl, .now _, rfl, outages⟩
  | stopwatch => exact ⟨_, _, rfl, .stopwatch _, rfl, outages⟩
  | note entry =>
    refine ⟨_, _, rfl, ?_⟩
    dsimp only
    split
    · exact ⟨.note entry, rfl, outages⟩
    · exact ⟨.note entry, rfl, outages⟩

theorem OnlyOutages.leads {α : Type} {post : α → Backing → Prop} {d : Conversation α}
    (outages : w.OnlyOutages) (p : Leads (Met w.now h) post d w.backing)
    (fresh : ∀ e ∈ w.calls d, e.call.IsFresh (ledger e.call.client h)) :
    post ((d.run World.respond).run w).1 ((d.run World.respond).run w).2.backing := by
  induction d generalizing w with
  | done value => exact p.of_done
  | ask question next ih =>
    rw [calls, List.forall_mem_append] at fresh
    have isFresh : ∀ c, question = .store c → c.IsFresh (ledger c.client h) := by
      rintro c rfl
      exact fresh.1 _ (List.mem_singleton_self _)
    obtain ⟨answer, after, answered, met, clock, still⟩ := outages.respond isFresh
    have later := p.of_ask met
    rw [← clock] at later
    rw [answered] at fresh
    have rest := ih answer still later fresh.2
    rw [Dialogue.run_ask, StateT.run_bind, answered]
    exact rest

end World

/-! ## One request -/

/-- What a request has done to the store, by what it was answered. -/
structure Confined (app : App) (request : Http.Request) (response : Response) (time : Number)
    (before after : Backing) : Prop where
  /-- What is held for other clients than the one that the request names stays. -/
  others : ∀ client, request.client? ≠ some client → after.holding client = before.holding client
  /-- Without success the store is as it was, but for an empty record of a new client. -/
  failed : response.status ≠ 200 → after = before ∨
    ∃ client, request.client? = some client ∧ app.engine.createClients = true ∧
      before.row? client = none ∧ after = before.enrol client
  refused : response.status = 400 ∨ response.status = 403 ∨
    (App.destination request).route = none ∨
      (App.destination request).route = some (.protocol .getSnapshot) → after = before
  added : ∀ given, (App.destination request).route = some (.protocol (.addVersion given)) →
    response.status = 200 → ∃ client parent version, request.client? = some client ∧
      Uuid.read? given = some parent ∧ response.header? "x-version-id" = some version ∧
        Appends before client ⟨version, parent, request.body.bytes⟩ after
  taken : ∀ given, (App.destination request).route = some (.protocol (.addSnapshot given)) →
    response.status = 200 → ∃ client version, request.client? = some client ∧
      Uuid.read? given = some version ∧ (Enrols app.engine client before after ∨
        Takes before client ⟨version, request.body.bytes⟩ time
          (app.engine.retention = .pruneOnSnapshot) after)
  found : ∀ given, (App.destination request).route = some (.protocol (.getChildVersion given)) →
    response.status = 200 → after = before

namespace Confined

variable {app : App} {request : Http.Request} {response : Response} {time : Number}
  {before after : Backing}

theorem of_nothing
    (banner : response.status = 200 → (App.destination request).route = some .banner) :
    Confined app request response time before before where
  others _ _ := rfl
  failed _ := .inl rfl
  refused _ := rfl
  added given leads status := by
    rw [banner status] at leads
    cases leads
  taken given leads status := by
    rw [banner status] at leads
    cases leads
  found _ _ _ := rfl

theorem of_concludes {command : Command} {stamp : Number → Option Number} {h : History}
    (keeps : before.Keeps stamp h) (asked : app.asks request = some command)
    (concludes : Concludes app.engine time before command response after)
    (headers : List (String × String)) (headOnly : Bool) :
    Confined app request { response.withHeaders headers with headOnly } time before after := by
  obtain ⟨endpoint, client, route, reads, means⟩ := App.means_of_asks asked
  have named := Command.client_of_readClient reads
  have owner : command.client = client := by
    cases means <;> rfl
  constructor
  case others =>
    intro other unnamed
    refine concludes.others keeps ?_
    rintro rfl
    rw [owner] at unnamed
    exact unnamed named
  case failed =>
    intro status
    have enrols := concludes.enrols_of_failed status
    rw [owner] at enrols
    cases enrols with
    | same => exact .inl rfl
    | enrolled creates unknown => exact .inr ⟨client, named, creates, unknown, rfl⟩
  case refused =>
    rw [route]
    rintro (status | status | noRoute | reads)
    · exact concludes.unchanged_of_refused (.inl status)
    · exact concludes.unchanged_of_refused (.inr status)
    · cases noRoute
    · cases reads
      cases means
      exact concludes.unchanged_of_read
  case added =>
    intro given leads status
    rw [route] at leads
    cases leads
    cases means with
    | addVersion names =>
      obtain ⟨version, urgency, rfl, appends⟩ := concludes.added_version status
      exact ⟨client, _, version, named, names, (added_answer version urgency headers headOnly).2,
        appends⟩
  case taken =>
    intro given leads status
    rw [route] at leads
    cases leads
    cases means with
    | addSnapshot names => exact ⟨client, _, named, names, concludes.taken_or_not⟩
  case found =>
    intro given leads status
    rw [route] at leads
    cases leads
    cases means with
    | getChildVersion names => exact concludes.unchanged_of_found status

end Confined

/-- However the calls of a request go, what it has done is told by its answer. -/
theorem Outages.respond {stamp : Number → Option Number} {h : History} {b : Backing}
    (keeps : b.Keeps stamp h) (app : App) (request : Http.Request) (time : Number) :
    Leads (Met time h) (fun response after => Confined app request response time b after)
      (app.respond request) b := by
  have inner := Leads.respond (Leads.ignoresAsides Met.callsOnly) app request
    (fun response after => ∀ headers headOnly,
      Confined app request { response.withHeaders headers with headOnly } time b after)
    (fun _ response _ banner headers headOnly => .of_nothing banner)
    fun command method path asked => (Outages.settle keeps command method path).mono
      fun response after concludes => .of_concludes keeps asked concludes
  refine inner.mono ?_
  rintro _ after ⟨response, id?, confined, rfl⟩
  exact confined _ _

/-- **What a request may do.** Whatever calls of a request fail because the store is out of reach,
it has changed nothing of other clients, nothing when it was refused, and no more than its answer
tells when it was not. -/
theorem request_confined {start : Backing} (new : start.IsNew) {calls : List (Number × Call)}
    (fresh : FreshIds (Recorded.run start calls).history) {world : World}
    (reached : world.backing = (Recorded.run start calls).store) (outages : world.OnlyOutages)
    {app : App} {request : Http.Request}
    (own : ∀ e ∈ (world.serve app request).1.calls,
      e.call.IsFresh (ledger e.call.client (Recorded.run start calls).history)) :
    Confined app request (world.serve app request).1.response world.now world.backing
      (world.serve app request).2.backing := by
  obtain ⟨stamp, keeps⟩ := Recorded.keeps new
  have kept := keeps calls fresh
  rw [← reached] at kept
  have leads := Outages.respond kept app request world.now
  -- The conversation is made opaque here, for unification would run it.
  unfold World.serve at own ⊢
  dsimp only at own ⊢
  generalize app.respond request = d at leads own ⊢
  exact outages.leads leads own

/-- A client's first version. -/
def outageCalls : List (Number × Call) :=
  let c := "11111111-1111-4111-8111-111111111111"
  [(0, .createClient c), (1, .addVersion c nilId "33333333-3333-4333-8333-333333333333" [1])]

/-- A store that cannot be reached for the next version. -/
def outageWorld : World where
  backing := (Recorded.run (.memory .empty) outageCalls).store
  misbehaviours :=
    [⟨.addVersion, some 1, .failed (.storage "Error adding version" (.error "disk I/O error"))⟩]

/-- Another client comes with its first version. -/
def outageRequest : Http.Request where
  method := "POST"
  target := "/v1/client/add-version/00000000-0000-0000-0000-000000000000"
  headers := ⟨[("x-client-id", "AAAAAAAA-AAAA-4AAA-8AAA-AAAAAAAAAAAA")]⟩
  body := .whole [2]

theorem request_confined_enrolling :
    (Backing.memory .empty).IsNew ∧
      FreshIds (Recorded.run (.memory .empty) outageCalls).history ∧ outageWorld.OnlyOutages ∧
      (∀ e ∈ (outageWorld.serve {} outageRequest).1.calls, e.call.IsFresh
        (ledger e.call.client (Recorded.run (.memory .empty) outageCalls).history)) ∧
      (outageWorld.serve {} outageRequest).1.response.status = 500 ∧
      Confined {} outageRequest (outageWorld.serve {} outageRequest).1.response outageWorld.now
        outageWorld.backing (outageWorld.serve {} outageRequest).2.backing := by
  have fresh : FreshIds (Recorded.run (.memory .empty) outageCalls).history := by
    decide +kernel
  have outages : outageWorld.OnlyOutages := by
    intro m hm
    obtain rfl := List.mem_singleton.mp hm
    exact ⟨_, rfl, .storage _ _⟩
  have own : ∀ e ∈ (outageWorld.serve {} outageRequest).1.calls, e.call.IsFresh
      (ledger e.call.client (Recorded.run (.memory .empty) outageCalls).history) := by
    decide +kernel
  have status : (outageWorld.serve {} outageRequest).1.response.status = 500 := by
    decide +kernel
  exact ⟨.memory, fresh, outages, own, status, request_confined .memory fresh rfl outages own⟩

end Scenario

end TaskSync
