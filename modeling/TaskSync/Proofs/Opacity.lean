import TaskSync.Proofs.Confinement
import TaskSync.Proofs.Gate

/-!
# Opaque failures

What a request shows of the failures of a store. One status tells that a call
failed, another that there is no such client. Nothing else of a failure can be
told from the answer, or has any effect.
-/

namespace TaskSync

open Store

namespace Scenario

open Http (App Command Response)

/-! ## Failures among the calls -/

/-- A call failed, and not for want of the client. That a client to be created exists counts only if
it is not there when it is read again. -/
def Breaks (calls : List Placed) : Prop :=
  ∃ before c failure after, calls = before ++ ⟨c, .error failure⟩ :: after ∧
    (∀ id, failure ≠ .noSuchClient id) ∧
      ∀ client id, c = .createClient client → failure = .clientAlreadyExists id →
        ∃ rest, after = ⟨.getClient client, .ok none⟩ :: rest

/-- A call failed for want of the client, or the client is not there and may not be created. -/
def LacksClient (engine : Engine) (calls : List Placed) : Prop :=
  (∃ c id, ⟨c, .error (.noSuchClient id)⟩ ∈ calls) ∨
    engine.createClients = false ∧ ∃ client, ⟨.getClient client, .ok none⟩ ∈ calls

section

variable {creates : Bool} {client : String} {engine : Engine} {command : Command}
  {calls : List Placed} {result : Result}

theorem Seeks.after_race {found : Except Failure (Option Client)}
    (seeks : Seeks creates client calls found) {before rest : List Placed} {other id : String}
    (split : calls = before ++ ⟨.createClient other, .error (.clientAlreadyExists id)⟩ ::
      ⟨.getClient other, .ok none⟩ :: rest) : found = .error (.clientAlreadyExists id) := by
  -- A client is read as absent after another has created it only where it has vanished.
  cases seeks <;> rcases before with _ | ⟨_, _ | ⟨_, _ | ⟨_, before⟩⟩⟩ <;> simp at split
  simp [split]

theorem Seeks.eq_reply {found : Except Failure (Option Client)}
    (seeks : Seeks false client calls found) : calls = [⟨.getClient client, found⟩] := by
  cases seeks <;> first | rfl | contradiction

theorem Attempts.after_race (attempts : Attempts engine command calls result)
    {before rest : List Placed} {other id : String}
    (split : calls = before ++ ⟨.createClient other, .error (.clientAlreadyExists id)⟩ ::
      ⟨.getClient other, .ok none⟩ :: rest) : result = .error (.clientAlreadyExists id) := by
  have unfound {calls : List Placed} {found : Option Client}
      (seeks : Seeks (engine.enrols command) command.client calls (.ok found))
      (rest : List Placed) : calls ≠ before ++
        ⟨.createClient other, .error (.clientAlreadyExists id)⟩ ::
          ⟨.getClient other, .ok none⟩ :: rest :=
    fun split => nomatch seeks.after_race split
  -- The operation's own call does not look for the client, so that it is none of the two.
  have own {calls : List Placed} {record : Client}
      (seeks : Seeks (engine.enrols command) command.client calls (.ok (some record))) {c : Call}
      (own : Own engine command c) (reply : Except Failure c.Reply) :
      calls ++ [⟨c, reply⟩] ≠ before ++
        ⟨.createClient other, .error (.clientAlreadyExists id)⟩ ::
          ⟨.getClient other, .ok none⟩ :: rest := by
    intro split
    rcases snoc_eq_split split with ⟨-, same⟩ | ⟨later, sought⟩
    · cases same
      cases own
    · rw [sought, List.append_assoc, List.append_cancel_left_eq, List.cons_append,
        List.cons.injEq] at split
      rcases later with _ | ⟨read, later⟩
      · cases (List.cons.inj split.2).1
        cases own
      · obtain ⟨rfl, -⟩ := List.cons.inj split.2
        exact unfound seeks later sought
  cases attempts with
  | halted seeks => exact congrArg Except.error (Except.error.inj (seeks.after_race split))
  | unknown seeks | nothing seeks | ofNothing seeks => exact absurd split (unfound seeks rest)
  | failed seeks makes | answered seeks makes => exact absurd split (own seeks makes _)

/-- What an operation fails with is what its last call failed with, or that a client that is to be
created has vanished, or that a client is unknown and stays so. -/
theorem Attempts.of_error {failure : Failure}
    (attempts : Attempts engine command calls (.error failure)) :
    (∃ before c, calls = before ++ [⟨c, .error failure⟩] ∧
      ∀ client id, c = .createClient client → failure ≠ .clientAlreadyExists id) ∨
    (∃ id, failure = .clientAlreadyExists id ∧ calls = [⟨.getClient command.client, .ok none⟩,
      ⟨.createClient command.client, .error (.clientAlreadyExists id)⟩,
      ⟨.getClient command.client, .ok none⟩]) ∨
    (engine.createClients = false ∧ failure = .noSuchClient command.client ∧
      calls = [⟨.getClient command.client, .ok none⟩]) := by
  cases attempts with
  | halted seeks =>
    cases seeks with
    | unread => exact .inl ⟨[], _, rfl, nofun⟩
    | uncreated on other => exact .inl ⟨[_], _, rfl, fun _ id _ => other id⟩
    | vanished on id => exact .inr (.inl ⟨id, rfl, rfl⟩)
    | unreadAgain on id => exact .inl ⟨[_, _], _, rfl, nofun⟩
  | unknown seeks refused =>
    cases seeks
    exact .inr (.inr ⟨refused, rfl, rfl⟩)
  | failed seeks own => exact .inl ⟨_, _, rfl, fun client id made => by cases own <;> cases made⟩

theorem Attempts.breaks_iff (attempts : Attempts engine command calls result) :
    Breaks calls ↔ ∃ failure, result = .error failure ∧ ∀ id, failure ≠ .noSuchClient id := by
  constructor
  · rintro ⟨before, c, failure, after, split, known, counts⟩
    obtain ⟨passed, last, rfl, pass, fails⟩ := attempts.last
    rcases snoc_eq_split split with ⟨rfl, rfl⟩ | ⟨rest, rfl⟩
    · exact ⟨failure, fails failure rfl, known⟩
    · obtain ⟨rfl, id, rfl⟩ := pass ⟨c, .error failure⟩ (by simp) failure rfl
      obtain ⟨rest', rfl⟩ := counts command.client id rfl rfl
      exact ⟨_, attempts.after_race split, nofun⟩
  · rintro ⟨failure, rfl, known⟩
    rcases attempts.of_error with ⟨before, c, rfl, counts⟩ | ⟨id, rfl, rfl⟩ | ⟨-, rfl, -⟩
    · exact ⟨before, c, failure, [], rfl, known, fun client id made exist =>
        absurd exist (counts client id made)⟩
    · refine ⟨[_], _, _, _, rfl, known, ?_⟩
      rintro _ _ ⟨rfl⟩ -
      exact ⟨[], rfl⟩
    · exact absurd rfl (known command.client)

theorem Attempts.unknown_of_absent (attempts : Attempts engine command calls result)
    (off : engine.createClients = false) (absent : ⟨.getClient client, .ok none⟩ ∈ calls) :
    ∃ id, result = .error (.noSuchClient id) := by
  have enrols : engine.enrols command = false := Engine.enrols_eq_false off
  have found {calls : List Placed} {record : Client}
      (seeks : Seeks (engine.enrols command) command.client calls (.ok (some record))) :
      ⟨.getClient client, .ok none⟩ ∉ calls := by
    rw [enrols] at seeks
    simp [seeks.eq_reply]
  have own {calls : List Placed} {record : Client}
      (seeks : Seeks (engine.enrols command) command.client calls (.ok (some record))) {c : Call}
      (own : Own engine command c) (reply : Except Failure c.Reply) :
      ⟨.getClient client, .ok none⟩ ∉ calls ++ [⟨c, reply⟩] := by
    intro absent
    rcases List.mem_append.mp absent with absent | absent
    · exact found seeks absent
    · cases List.mem_singleton.mp absent
      cases own
  cases attempts with
  | halted seeks =>
    rw [enrols] at seeks
    rw [seeks.eq_reply] at absent
    cases List.mem_singleton.mp absent
  | unknown => exact ⟨_, rfl⟩
  | nothing seeks reads creates => cases off.symm.trans creates
  | ofNothing seeks => exact absurd absent (found seeks)
  | failed seeks makes | answered seeks makes => exact absurd absent (own seeks makes _)

theorem Attempts.lacksClient_iff (attempts : Attempts engine command calls result) :
    LacksClient engine calls ↔ ∃ id, result = .error (.noSuchClient id) := by
  constructor
  · rintro (⟨c, id, failed⟩ | ⟨off, client, absent⟩)
    · obtain ⟨before, last, rfl, pass, fails⟩ := attempts.last
      rcases List.mem_append.mp failed with failed | failed
      · obtain ⟨-, _, ⟨⟩⟩ := pass _ failed _ rfl
      · obtain rfl := List.mem_singleton.mp failed
        exact ⟨id, fails _ rfl⟩
    · exact attempts.unknown_of_absent off absent
  · rintro ⟨id, rfl⟩
    rcases attempts.of_error with ⟨before, c, rfl, -⟩ | ⟨_, ⟨⟩, -⟩ | ⟨off, -, rfl⟩
    · exact .inl ⟨c, id, by simp⟩
    · exact .inr ⟨off, _, List.mem_singleton_self _⟩

end

/-! ## What is shown -/

/-- What a command is answered, by what its operation has attempted. -/
inductive Shows (engine : Engine) (command : Command) (calls : List Placed) : Response → Prop where
  | answered {value : Value} (attempts : Attempts engine command calls (.ok value))
      {response : Response} (status : response.status ≠ 403 ∧ response.status ≠ 500) :
      Shows engine command calls response
  | unknown {client : String}
      (attempts : Attempts engine command calls (.error (.noSuchClient client))) :
      Shows engine command calls (.plain 403 "Forbidden: unknown client")
  | broken {failure : Failure} (attempts : Attempts engine command calls (.error failure))
      (known : ∀ client, failure ≠ .noSuchClient client) :
      Shows engine command calls (.plain 500 "Internal Server Error")

section

variable {engine : Engine} {command : Command} {calls : List Placed} {response : Response}

theorem Shows.broken_iff (shown : Shows engine command calls response) :
    response.status = 500 ↔ Breaks calls := by
  cases shown with
  | answered attempts status =>
    rw [attempts.breaks_iff]
    exact ⟨fun failed => absurd failed status.2, nofun⟩
  | unknown attempts =>
    rw [attempts.breaks_iff]
    refine ⟨nofun, ?_⟩
    rintro ⟨_, ⟨rfl⟩, known⟩
    exact absurd rfl (known _)
  | broken attempts known =>
    rw [attempts.breaks_iff]
    exact ⟨fun _ => ⟨_, rfl, known⟩, fun _ => rfl⟩

theorem Shows.unknown_iff (shown : Shows engine command calls response) :
    response.status = 403 ↔ LacksClient engine calls := by
  cases shown with
  | answered attempts status =>
    rw [attempts.lacksClient_iff]
    exact ⟨fun failed => absurd failed status.1, nofun⟩
  | unknown attempts =>
    rw [attempts.lacksClient_iff]
    exact ⟨fun _ => ⟨_, rfl⟩, fun _ => rfl⟩
  | broken attempts known =>
    rw [attempts.lacksClient_iff]
    refine ⟨nofun, ?_⟩
    rintro ⟨id, ⟨rfl⟩⟩
    exact absurd rfl (known id)

theorem Shows.text (shown : Shows engine command calls response) (failed : response.status = 500) :
    response = .plain 500 "Internal Server Error" := by
  cases shown with
  | answered attempts status => exact absurd failed status.2
  | unknown => cases failed
  | broken => rfl

end

theorem Answers.succeeded {value : Value} {response : Response}
    (answers : Answers (.ok value) response) : response.status ≠ 403 ∧ response.status ≠ 500 := by
  cases answers with
  | added answer =>
    rcases answer with ⟨version, urgency⟩ | head
    · cases urgency <;> exact ⟨nofun, nofun⟩
    · exact ⟨nofun, nofun⟩
  | child answer | found answer => cases answer <;> exact ⟨nofun, nofun⟩
  | stored => exact ⟨nofun, nofun⟩

theorem settle_shows (app : App) (command : Command) (method path : String) :
    Leads Hears (fun response known => Shows app.engine command (placed known) response)
      (app.settle command method path) [] := by
  refine settle_hears app command method path ?_
  intro result said response concluded answers
  have attempts := concluded.attempts
  rw [← placed_heard] at attempts
  cases result with
  | ok value => exact .answered attempts answers.succeeded
  | error failure =>
    cases answers with
    | unknown client => exact .unknown attempts
    | broken other => exact .broken attempts other

theorem respond_shows {app : App} {request : Http.Request} (command : Command)
    (asked : app.asks request = some command) :
    Leads Hears (fun response known => ∃ inner id?,
        Shows app.engine command (placed known) inner ∧
        response = { inner.withHeaders (App.labels id?) with
          headOnly := decide ((App.destination request).method = "HEAD") })
      (app.respond request) [] := by
  refine Leads.respond Hears.ignoresAsides app request
    (fun response known => Shows app.engine command (placed known) response) ?_ ?_
  · intro unasked
    cases unasked.symm.trans asked
  · intro other method path asked'
    obtain rfl := Option.some.inj (asked'.symm.trans asked)
    exact settle_shows app _ method path

/-! ## In lockstep through failures -/

namespace Matching

theorem perform (engine : Engine) (command : Command) :
    Matches Alike Kindred (command.perform engine).run (command.perform engine).run := by
  obtain ⟨α, x, value, send, -, performs, -, goes⟩ := perform_eq engine command
  rw [performs]
  refine goes.lockstep.bind ?_
  rintro _ _ (answer | same)
  · exact .done (.ok (send answer))
  · exact .done (.error same)

theorem respond (app : App) (request : Http.Request) :
    Matches Alike Eq (app.respond request) (app.respond request) := by
  refine Matches.respond (fun _ _ => id) rfl rfl ?_
  rcases App.guarded_cases app request (fun _ => App.isGuarded_destination) with
    ⟨-, response, answers, -⟩ | ⟨command, -, answers⟩
  · rw [answers]
    exact .done rfl
  · rw [answers]
    exact .settle _ _ _ _ (perform app.engine command)

end Matching

/-! ## Stores of any kind -/

/-- A failure that is an error, and no plain value raised in place of one. -/
abbrev Thrown := { failure : Failure // ∀ raw, failure ≠ .raised raw }

/-- A store of any kind, which may throw at any call, with the ids and the times to be had. -/
structure Site (σ : Type) where
  start : σ
  step : σ → (c : Call) → Except Thrown c.Reply × σ
  ids : Nat → String
  times : Nat → Number

structure Condition (σ : Type) where
  store : σ
  drawn : Nat := 0
  read : Nat := 0

namespace Site

variable {σ : Type}

def answer (site : Site σ) (s : Condition σ) :
    (question : Ask) → question.Answer × Condition σ
  | .store c => ((site.step s.store c).1.mapError Subtype.val,
      { s with store := (site.step s.store c).2 })
  | .freshId => (site.ids s.drawn, { s with drawn := s.drawn + 1 })
  | .now | .stopwatch => (site.times s.read, { s with read := s.read + 1 })
  | .note _ => ((), s)

/-- What has become of the site when some was said. -/
def after (site : Site σ) (said : List Told) : Condition σ :=
  said.foldl (fun s told => (site.answer s told.question).2) { store := site.start }

def around (site : Site σ) : Surroundings := fun said question =>
  (site.answer (site.after said) question).1

def serve (site : Site σ) (app : App) (request : Http.Request) : Response × List Told :=
  converse site.around (app.respond request) []

theorem after_snoc (site : Site σ) (said : List Told) (told : Told) :
    site.after (said ++ [told]) = (site.answer (site.after said) told.question).2 := by
  rw [after, List.foldl_append]
  rfl

/-- The sites differ in the failures thrown only, and not in their roles. -/
structure Differs (site site' : Site σ) : Prop where
  start : site.start = site'.start
  store : ∀ s c, (site.step s c).2 = (site'.step s c).2
  replies : ∀ s c, Kindred ((site.step s c).1.mapError Subtype.val)
    ((site'.step s c).1.mapError Subtype.val)
  ids : site.ids = site'.ids
  times : site.times = site'.times

theorem Differs.answer {site site' : Site σ} (differs : site.Differs site') (s : Condition σ)
    (question : Ask) : Alike question (site.answer s question).1 (site'.answer s question).1 ∧
      (site.answer s question).2 = (site'.answer s question).2 := by
  obtain ⟨-, store, replies, ids, times⟩ := differs
  cases question with
  | store c => exact ⟨replies s.store c, by rw [Site.answer, Site.answer, store]⟩
  | freshId => exact ⟨congrFun ids s.drawn, rfl⟩
  | now | stopwatch => exact ⟨congrFun times s.read, rfl⟩
  | note entry => exact ⟨rfl, rfl⟩

theorem Differs.converse {site site' : Site σ} (differs : site.Differs site') {α : Type}
    {d d' : Conversation α} (p : Matches Alike Eq d d') {said said' : List Told}
    (same : site.after said = site'.after said') :
    (converse site.around d said).1 = (converse site'.around d' said').1 ∧
      site.after (converse site.around d said).2 =
        site'.after (converse site'.around d' said').2 := by
  induction p generalizing said said' with
  | done ends => exact ⟨ends, same⟩
  | @ask question next next' _ ih =>
    obtain ⟨alike, store⟩ := differs.answer (site.after said) question
    refine ih _ _ ?_ ?_
    · unfold around
      rw [← same]
      exact alike
    · rw [after_snoc, after_snoc, ← same]
      exact store
  | note entry entry' _ ih =>
    refine ih ?_
    rw [after_snoc, after_snoc]
    exact same

end Site

/-- What can be told from the answer to a request of how the store failed. -/
structure Opaque {σ : Type} (app : App) (request : Http.Request) (site : Site σ)
    (response : Response) (said : List Told) : Prop where
  broken : response.status = 500 ↔ Breaks (placed said)
  unknown : response.status = 403 ↔ LacksClient app.engine (placed said)
  /-- Whatever has failed, the text is the same. -/
  text : response.status = 500 → response.content = .text "Internal Server Error"
  /-- Other failures of the same roles at the same calls make no difference. -/
  hidden : ∀ site', site.Differs site' → (site'.serve app request).1 = response ∧
    (site'.after (site'.serve app request).2).store = (site.after said).store

/-- **Opaque failures.** Whatever the store is and whichever of its calls fail, a request for a
command is answered with one status if a call fails, and with one if there is no such client.
Nothing else of a failure shows in the answer or in the store. -/
theorem failures_opaque {σ : Type} (site : Site σ) {app : App} {request : Http.Request}
    {command : Command} (asked : app.asks request = some command) :
    Opaque app request site (site.serve app request).1 (site.serve app request).2 := by
  have leads : Leads Hears _ (app.respond request) (heard []) := respond_shows command asked
  obtain ⟨inner, id?, shown, sent⟩ := (Leads.speaks leads).converse site.around
  rw [placed_heard] at shown
  have status : (site.serve app request).1.status = inner.status := by
    rw [Site.serve, sent]
    rfl
  constructor
  case broken =>
    rw [status]
    exact shown.broken_iff
  case unknown =>
    rw [status]
    exact shown.unknown_iff
  case text =>
    intro failed
    rw [status] at failed
    have content : (site.serve app request).1.content = inner.content := by
      rw [Site.serve, sent]
      rfl
    rw [content, shown.text failed]
    rfl
  case hidden =>
    intro site' differs
    have start : site.after [] = site'.after [] := by
      rw [Site.after, Site.after, List.foldl_nil, List.foldl_nil, differs.start]
    obtain ⟨response, store⟩ := differs.converse (Matching.respond app request) start
    exact ⟨response.symm, congrArg Condition.store store.symm⟩

/-- A store that knows every client, and fails at all else. -/
def onlyKnows (failure : Thrown) : Site (List Call) where
  start := []
  step calls
    | .getClient client => (.ok (some (.fresh client)), calls ++ [.getClient client])
    | c => (.error failure, calls ++ [c])
  ids _ := "33333333-3333-4333-8333-333333333333"
  times _ := 1

/-- A failure that tells where the store is, and one that does not. -/
def telling : Thrown := ⟨.foreign "Error" "connect ECONNREFUSED 10.0.0.7:5432", nofun⟩

def silent : Thrown := ⟨.storage "error adding version" .absent, nofun⟩

theorem failures_opaque_telling :
    App.asks {} outageRequest =
        some (.addVersion "aaaaaaaa-aaaa-4aaa-8aaa-aaaaaaaaaaaa" nilId [2]) ∧
      Opaque {} outageRequest (onlyKnows telling) ((onlyKnows telling).serve {} outageRequest).1
        ((onlyKnows telling).serve {} outageRequest).2 ∧
      ((onlyKnows telling).serve {} outageRequest).1.status = 500 ∧
      (onlyKnows telling).Differs (onlyKnows silent) := by
  have asked : App.asks {} outageRequest =
      some (.addVersion "aaaaaaaa-aaaa-4aaa-8aaa-aaaaaaaaaaaa" nilId [2]) := by decide +kernel
  refine ⟨asked, failures_opaque (onlyKnows telling) asked, by decide +kernel, rfl, ?_, ?_, rfl, rfl⟩
  · intro calls c
    cases c <;> rfl
  · intro calls c
    cases c with
    | getClient client => exact .ok _
    | _ => exact .error rfl

end Scenario

end TaskSync
