import TaskSync.Proofs.Pipeline
import TaskSync.Proofs.Uninterrupted

/-!
# Requests served one after the other

What a request is answered and which calls are made for it, in a world where
nothing stands between the engine and its store. Whatever the engine answers, it
is sent with the headers of every answer added.
-/

namespace TaskSync

namespace Scenario

open Store
open Http (App Response Command Route)

/-! ## One request -/

/-- A command is answered by what it comes to. Without a command nothing is written. -/
inductive Handled (app : App) (h : History) : Option Command → Response → History → Prop where
  | command {command : Command} {value : Value} {response : Response} {h' : History}
      (settles : Settles app.engine h command value h') (answers : Answers (.ok value) response) :
      Handled app h (some command) response h'
  | nothing (response : Response) {h' : History} (quiet : Quiet h h') :
      Handled app h none response h'

theorem respond_handled {stamp : Number → Option Number} {h : History} (app : App)
    (creates : app.engine.createClients = true) (lawful : Lawful stamp h)
    (request : Http.Request) :
    Leads (Steps stamp) (fun response h' => ∃ inner headers,
        Handled app h (app.asks request) inner h' ∧
          response = { inner.withHeaders headers with
            headOnly := decide ((App.destination request).method = "HEAD") })
      (app.respond request) h := by
  have ignores := Leads.ignoresAsides (@Steps.callsOnly stamp)
  refine (Leads.respond ignores app request (Handled app h (app.asks request))
    ?nothing ?settles).mono ?headers
  case headers =>
    rintro _ h' ⟨inner, id?, handled, rfl⟩
    exact ⟨inner, _, handled, rfl⟩
  case nothing =>
    intro none response _ _
    rw [none]
    exact .nothing response (Quiet.refl h)
  case settles =>
    intro command method path asked
    rw [asked]
    refine Leads.settle ignores method path ((carryOut_settles app.engine lawful command).mono ?_)
    rintro (failure | value) h' ended response answers
    · obtain ⟨-, off, -⟩ := ended
      cases off.symm.trans creates
    · exact .command ended answers

/-! ## Requests one after the other -/

/-- A request with its answer, and the calls that were made for it. -/
structure Served where
  request : Http.Request
  response : Response
  calls : History

/-- A request that was served after some calls was handled. -/
def Served.Handled (app : App) (h : History) (s : Served) : Prop :=
  ∃ inner headers, Scenario.Handled app h (app.asks s.request) inner (h ++ s.calls) ∧
    s.response = { inner.withHeaders headers with
      headOnly := decide ((App.destination s.request).method = "HEAD") }

namespace World

def serve (app : App) (request : Http.Request) (w : World) : Served × World :=
  let answered := ((app.respond request).run World.respond).run w
  (⟨request, answered.1, w.calls (app.respond request)⟩, answered.2)

variable {stamp : Number → Option Number} {h : History} {w : World} {app : App}

theorem Keeps.serve (keeps : w.Keeps stamp h) (creates : app.engine.createClients = true)
    {request : Http.Request} (fresh : FreshIds (h ++ (w.serve app request).1.calls)) :
    (w.serve app request).1.Handled app h ∧
      (w.serve app request).2.Keeps stamp (h ++ (w.serve app request).1.calls) := by
  have answers := respond_handled app creates keeps.store.lawful request
  -- The conversation is made opaque here, for unification would run it.
  unfold World.serve Served.Handled at *
  dsimp only at fresh ⊢
  generalize app.respond request = d at answers fresh ⊢
  exact keeps.leads_of_fresh answers fresh

end World

/-- A world with the requests that were served in it. -/
structure Service where
  world : World
  served : List Served := []

namespace Service

def serve (app : App) (s : Service) (time : Number) (request : Http.Request) : Service :=
  let (this, world) := { s.world with now := time }.serve app request
  ⟨world, s.served ++ [this]⟩

def run (app : App) (world : World) (requests : List (Number × Http.Request)) : Service :=
  requests.foldl (fun s made => s.serve app made.1 made.2) ⟨world, []⟩

theorem run_snoc (app : App) (world : World) (requests : List (Number × Http.Request))
    (time : Number) (request : Http.Request) :
    run app world (requests ++ [(time, request)]) =
      (run app world requests).serve app time request := by
  unfold run
  rw [List.foldl_append]
  rfl

end Service

def historyOf (served : List Served) : History := served.flatMap (·.calls)

theorem historyOf_append (served served' : List Served) :
    historyOf (served ++ served') = historyOf served ++ historyOf served' :=
  List.flatMap_append

theorem historyOf_singleton (this : Served) : historyOf [this] = this.calls :=
  List.flatMap_singleton ..

/-- The ledgers are kept, and every request was handled. -/
structure Service.Holds (stamp : Number → Option Number) (app : App) (s : Service) : Prop where
  keeps : s.world.Keeps stamp (historyOf s.served)
  handled : ∀ before this after, s.served = before ++ this :: after →
    this.Handled app (historyOf before)

namespace Service.Holds

variable {stamp : Number → Option Number} {app : App}
  (creates : app.engine.createClients = true)
include creates

theorem serve {s : Service} (holds : s.Holds stamp app) {time : Number} {request : Http.Request}
    (fresh : FreshIds (historyOf (s.serve app time request).served)) :
    (s.serve app time request).Holds stamp app := by
  have there : World.Keeps { s.world with now := time } stamp (historyOf s.served) :=
    ⟨holds.keeps.calm, holds.keeps.store⟩
  unfold Service.serve at fresh ⊢
  dsimp only at fresh ⊢
  rw [historyOf_append, historyOf_singleton] at fresh
  have answered := there.serve creates fresh
  generalize World.serve app request { s.world with now := time } = answer at answered ⊢
  constructor
  · rw [historyOf_append, historyOf_singleton]
    exact answered.2
  · intro before this after split
    rcases snoc_eq_split split with ⟨rfl, rfl⟩ | ⟨rest, hrest⟩
    · exact answered.1
    · exact holds.handled _ _ _ hrest

theorem run {world : World} (keeps : world.Keeps stamp []) {requests : List (Number × Http.Request)}
    (fresh : FreshIds (historyOf (Service.run app world requests).served)) :
    (Service.run app world requests).Holds stamp app := by
  induction requests using List.reverseRecOn with
  | nil => exact ⟨keeps, fun before this after split => by cases before <;> cases split⟩
  | append_singleton requests made ih =>
    rw [Service.run_snoc] at fresh ⊢
    have grows : historyOf (Service.run app world requests).served <+:
        historyOf ((Service.run app world requests).serve app made.1 made.2).served := by
      unfold Service.serve
      rw [historyOf_append]
      exact List.prefix_append ..
    exact (ih (fresh.of_isPrefix grows)).serve creates fresh

end Service.Holds

end Scenario

end TaskSync
