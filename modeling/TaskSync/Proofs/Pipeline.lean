import TaskSync.Proofs.Attempts
import TaskSync.Proofs.Requests

/-!
# From requests to commands

A request is handled in one place only: its command is settled, or it has none
and is answered without the store. All that surrounds this asks for times and an
id, writes the journal, and adds headers to the answer.
-/

namespace TaskSync.Http.App

variable {app : App} {request : Request}

/-- A request that leads to the protocol is settled by its command, or refused. -/
theorem guarded_cases (app : App) (request : Request) {goal : Destination}
    (guards : ∀ endpoint, goal.route = some (.protocol endpoint) →
      Route.isGuarded goal.path = true) :
    (app.asksAt request goal = none ∧ ∃ response, app.guarded request goal = .done response ∧
        response.headers = [] ∧ (response.status = 200 → goal.route = some .banner)) ∨
      ∃ command, app.asksAt request goal = some command ∧
        app.guarded request goal = app.settle command goal.method (String.ofList goal.path) := by
  unfold guarded serve asksAt
  match hroute : goal.route with
  | none =>
    refine .inl ⟨rfl, ?_⟩
    dsimp only
    repeat' split
    all_goals exact ⟨_, rfl, rfl, nofun⟩
  | some .banner =>
    refine .inl ⟨rfl, ?_⟩
    dsimp only
    repeat' split
    all_goals exact ⟨_, rfl, rfl, fun _ => rfl⟩
  | some (.protocol endpoint) =>
    rw [guards endpoint hroute]
    cases app.allowlist.admits request.headers with
    | false => exact .inl ⟨rfl, _, rfl, rfl, nofun⟩
    | true =>
      cases exceeds app.maxBody request with
      | true => exact .inl ⟨rfl, _, rfl, rfl, nofun⟩
      | false =>
        simp only [Bool.not_true, Bool.not_false, Bool.true_and, Bool.false_eq_true, if_false,
          if_true]
        cases Command.read request endpoint with
        | error refusal => exact .inl ⟨rfl, .plain 400 refusal, rfl, rfl, nofun⟩
        | ok command => exact .inr ⟨command, rfl, rfl⟩

/-- The headers that every answer of the application gets, with the id of its request. -/
def labels : Option String → List (String × String)
  | some id => [("x-request-id", id), ("cache-control", "no-store, max-age=0")]
  | none => []

/-- A logged request from when it has its id. -/
def labelled (goal : Destination) (inner : Conversation Response) (start : Number) (id : String) :
    Conversation Response := do
  let response ← inner
  let stop ← Operation.ask .stopwatch
  Operation.ask (.note (.requestCompleted id goal.method (String.ofList goal.path) response.status
    (stop.sub start).nearest))
  return response.withHeaders (labels (some id))

theorem logged_eq (request : Request) (goal : Destination) (inner : Conversation Response) :
    logged request goal inner = Operation.ask .stopwatch >>= fun start =>
      match requestId? request.headers with
      | some id => labelled goal inner start id
      | none => Operation.ask .freshId >>= labelled goal inner start := by
  unfold logged
  cases requestId? request.headers <;> rfl

end TaskSync.Http.App

namespace TaskSync

namespace Scenario

open Http (Command Response)

/-- How what a command comes to is sent. -/
inductive Answers : Result → Response → Prop where
  | added (answer : AddVersionAnswer) :
      Answers (.ok (.versionAdded answer)) (Command.sendAdded answer)
  | child (answer : ChildAnswer) : Answers (.ok (.child answer)) (Command.sendChild answer)
  | stored (answer : AddSnapshotAnswer) : Answers (.ok (.snapshotAdded answer)) { status := 200 }
  | found (snapshot : Option Snapshot) :
      Answers (.ok (.snapshotFound snapshot)) (Command.sendSnapshot snapshot)
  | unknown (client : String) :
      Answers (.error (.noSuchClient client)) (.plain 403 "Forbidden: unknown client")
  | broken {failure : Failure} (other : ∀ client, failure ≠ .noSuchClient client) :
      Answers (.error failure) (.plain 500 "Internal Server Error")

theorem perform_eq (engine : Engine) (command : Command) :
    ∃ (α : Type) (x : Operation α) (value : α → Value) (send : α → Response),
      carryOut engine command = value <$> x ∧ command.perform engine = send <$> x ∧
        (∀ answer, Answers (.ok (value answer)) (send answer)) ∧
          Abreast.Goes x (Attempting.Ended engine command value) [] := by
  cases command with
  | addVersion client parent segment =>
    exact ⟨_, _, _, _, rfl, rfl, .added, Attempting.addVersion engine client parent segment⟩
  | getChildVersion client parent =>
    exact ⟨_, _, _, _, rfl, rfl, .child, Attempting.getChildVersion engine client parent⟩
  | addSnapshot client version data =>
    exact ⟨_, _, _, _, rfl, rfl, .stored, Attempting.addSnapshot engine client version data⟩
  | getSnapshot client =>
    exact ⟨_, _, _, _, rfl, rfl, .found, Attempting.getSnapshot engine client⟩

end Scenario

namespace Leads

open Http Scenario
open Http.App (Destination)

variable {σ : Type} {step : σ → (question : Ask) → question.Answer → σ → Prop} {s : σ}

/-- Asides change no state. -/
def IgnoresAsides (step : σ → (question : Ask) → question.Answer → σ → Prop) : Prop :=
  ∀ s question answer after, step s question answer after → question.isAside = true → after = s

theorem ignoresAsides (only : CallsOnly step) : IgnoresAsides step := by
  intro s question answer after taken isAside
  refine only s question answer after taken ?_
  rintro c rfl
  cases isAside

section

variable (ignores : IgnoresAsides step)
include ignores

theorem aside {α : Type} {question : Ask} {f : question.Answer → Conversation α}
    {post : α → σ → Prop} (isAside : question.isAside = true)
    (p : ∀ answer, Leads step post (f answer) s) :
    Leads step post (Operation.ask question >>= f) s := by
  refine bind (ask fun answer after taken => ?_)
  obtain rfl := ignores _ _ _ _ taken isAside
  exact p answer

theorem settle {app : App} {command : Command} {post : Response → σ → Prop} (method path : String)
    (p : Leads step (fun result after => ∀ response, Answers result response → post response after)
      (carryOut app.engine command).run s) :
    Leads step post (app.settle command method path) s := by
  obtain ⟨α, x, value, send, carries, performs, answers, -⟩ := perform_eq app.engine command
  rw [carries] at p
  have performed : Leads step (Outcome (fun failure after => ∀ response,
      Answers (.error failure) response → post response after) post)
      (command.perform app.engine).run s := by
    rw [performs]
    refine map ((of_map p).mono ?_)
    rintro (failure | answer) after p
    · exact p
    · exact p _ (answers answer)
  unfold App.settle
  refine bind (performed.mono ?_)
  rintro (failure | response) after p
  · cases failure with
    | noSuchClient client => exact done (p _ (.unknown client))
    | _ => exact aside ignores rfl fun _ => done (p _ (.broken nofun))
  · exact done p

theorem logged {request : Request} {goal : Destination} {inner : Conversation Response}
    {post : Response → σ → Prop} (p : Leads step post inner s) :
    Leads step (fun response after => ∃ sent id, post sent after ∧
      response = sent.withHeaders (App.labels (some id))) (App.logged request goal inner) s := by
  have go (start : Number) (id : String) :
      Leads step (fun response after => ∃ sent id, post sent after ∧
        response = sent.withHeaders (App.labels (some id)))
        (App.labelled goal inner start id) s := by
    refine bind (p.mono fun sent after hsent => ?_)
    refine aside ignores rfl fun stop => ?_
    refine aside ignores rfl fun _ => ?_
    exact done ⟨sent, id, hsent, rfl⟩
  rw [App.logged_eq]
  refine aside ignores rfl fun start => ?_
  cases App.requestId? request.headers with
  | some id => exact go start id
  | none => exact aside ignores rfl fun id => go start id

theorem respond (app : App) (request : Request) (post : Response → σ → Prop)
    (nothing : app.asks request = none → ∀ response : Response, response.headers = [] →
      (response.status = 200 → (App.destination request).route = some .banner) →
        post response s)
    (settles : ∀ command method path, app.asks request = some command →
      Leads step post (app.settle command method path) s) :
    Leads step (fun response after => ∃ inner id?, post inner after ∧
      response = { inner.withHeaders (App.labels id?) with
        headOnly := decide ((App.destination request).method = "HEAD") })
      (app.respond request) s := by
  unfold App.respond
  unfold App.asks at nothing settles
  have guards := @App.isGuarded_destination request
  generalize App.destination request = goal at guards nothing settles ⊢
  dsimp only
  have inner : Leads step post (app.guarded request goal) s := by
    rcases App.guarded_cases app request (fun _ => guards) with
      ⟨none, response, same, bare, banner⟩ | ⟨command, asked, same⟩
    · rw [same]
      exact done (nothing none response bare banner)
    · rw [same]
      exact settles command _ _ asked
  refine bind ((logged ignores inner).mono ?_)
  rintro _ after ⟨sent, id, hsent, rfl⟩
  exact done ⟨sent, some id, hsent, rfl⟩

end

end Leads

/-! ## Two requests in lockstep -/

namespace Matches

open Http

variable {alike : (question : Ask) → question.Answer → question.Answer → Prop}

theorem settle {app app' : App} {command command' : Command} (method method' path path' : String)
    (p : Matches alike Kindred (command.perform app.engine).run
      (command'.perform app'.engine).run) :
    Matches alike Eq (app.settle command method path) (app'.settle command' method' path') := by
  have failed (failure failure' : Failure) : Matches alike Eq
      (Operation.ask (.note (.requestFailed failure method path)) >>= fun _ =>
        pure (Response.plain 500 "Internal Server Error"))
      (Operation.ask (.note (.requestFailed failure' method' path')) >>= fun _ =>
        pure (Response.plain 500 "Internal Server Error")) :=
    .bind (.noting _ _) fun _ _ _ => .done rfl
  unfold App.settle
  refine p.bind ?_
  rintro _ _ (response | @⟨failure, failure', same⟩)
  · exact .done rfl
  · -- Only a failure for want of the client is answered in a way of its own, and has its own role.
    cases failure <;> cases failure' <;>
      first | exact .done rfl | exact failed _ _ | cases same

theorem logged (drawn : ∀ x y, alike .freshId x y → x = y) {request request' : Request}
    (ids : App.requestId? request.headers = App.requestId? request'.headers)
    (goal goal' : App.Destination) {inner inner' : Conversation Response}
    (p : Matches alike Eq inner inner') :
    Matches alike Eq (App.logged request goal inner) (App.logged request' goal' inner') := by
  have go (start start' : Number) (id : String) : Matches alike Eq
      (App.labelled goal inner start id) (App.labelled goal' inner' start' id) := by
    refine p.bind ?_
    rintro response _ rfl
    refine .bind (.query .stopwatch) fun stop stop' _ => ?_
    exact .bind (.noting _ _) fun _ _ _ => .done rfl
  rw [App.logged_eq, App.logged_eq, ids]
  refine .bind (.query .stopwatch) fun start start' _ => ?_
  cases App.requestId? request'.headers with
  | some id => exact go start start' id
  | none =>
    refine .bind (.query .freshId) fun id id' same => ?_
    obtain rfl := drawn id id' same
    exact go start start' id

theorem respond (drawn : ∀ x y, alike .freshId x y → x = y) {app app' : App}
    {request request' : Request}
    (ids : App.requestId? request.headers = App.requestId? request'.headers)
    (method : (App.destination request).method = (App.destination request').method)
    (p : Matches alike Eq (app.guarded request (App.destination request))
      (app'.guarded request' (App.destination request'))) :
    Matches alike Eq (app.respond request) (app'.respond request') := by
  unfold App.respond
  dsimp only
  rw [method]
  refine Matches.bind (logged drawn ids _ _ p) ?_
  rintro response _ rfl
  exact .done rfl

end Matches

end TaskSync
