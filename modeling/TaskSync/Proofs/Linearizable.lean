import TaskSync.Proofs.Interleaving
import TaskSync.Proofs.Uninterrupted

/-!
# One moment for two reads

Asking what follows a version reads the client first and the version after that.
Versions may be added and pruned in between. The answer is still the one that
was right at one moment, when the request called the store.
-/

namespace TaskSync.Scenario

open Store

/-- **Linearizability.** At one of its own store calls, a request for what follows a version would
have been given its answer without interruption. -/
theorem getChildVersion_linearizable {store : Backing} (new : store.IsNew) {orders : List Order}
    (creates : ∀ order ∈ orders, order.engine.createClients = true) {turns : List Turn}
    (fresh : (Underway.run store orders turns).transcript.FreshDraws) {i : Nat} {engine : Engine}
    {client parent : String} (asks : orders[i]? = some ⟨engine, .getChildVersion client parent⟩)
    {result : Result} (done : (Underway.run store orders turns).Done i result) :
    ∃ answer, result = .ok (.child answer) ∧
      ∃ before turn after c, turns = before ++ turn :: after ∧ turn.request = i ∧
        (Underway.run store orders before).Calling i c ∧
        ∀ world : World, world.backing = (Underway.run store orders before).store →
          world.misbehaviours = [] →
            ((World.perform (engine.getChildVersion client parent)).run world).1 = .ok answer := by
  obtain ⟨stamp, keeps⟩ := new.keeps
  have holds := Underway.Holds.run keeps orders fresh
  have creating := creates _ (List.mem_of_getElem? asks)
  obtain ⟨value, rfl, justified⟩ := holds.answered creates asks done
  cases justified with
  | @child _ _ answer earlier later e line then_so =>
    obtain ⟨before, turn, after, hturns, request, calling, kept, -⟩ :=
      Underway.call_answered keeps fresh line
    refine ⟨answer, rfl, before, turn, after, _, hturns, request, calling, ?_⟩
    intro world reached calm
    have there : world.Keeps stamp earlier.history := ⟨calm, reached ▸ kept⟩
    obtain ⟨afterwards, h', performed, -⟩ := there.childAnswer engine (.inr creating) parent
    rw [performed, then_so]

/-- A request for what follows the nil id, a second version and a snapshot that prunes the first. -/
def overtaken : List Order :=
  [⟨{}, .addVersion "c" nilId [1]⟩, ⟨{}, .getChildVersion "c" nilId⟩,
    ⟨{}, .addVersion "c" "v1" [2]⟩, ⟨{ retention := .pruneOnSnapshot }, .addSnapshot "c" "v2" [3]⟩]

/-- Between the two reads of the request the others are done. -/
def overtakenTurns : List Turn :=
  List.replicate 7 ⟨0, 1, "v1"⟩ ++ [⟨1, 2, ""⟩] ++ List.replicate 5 ⟨2, 3, "v2"⟩ ++
    List.replicate 3 ⟨3, 4, ""⟩ ++ [⟨1, 5, ""⟩]

theorem getChildVersion_linearizable_overtaken :
    (Backing.memory .empty).IsNew ∧ (∀ order ∈ overtaken, order.engine.createClients = true) ∧
      (Underway.run (.memory .empty) overtaken overtakenTurns).transcript.FreshDraws ∧
      overtaken[1]? = some ⟨{}, .getChildVersion "c" nilId⟩ ∧
      (Underway.run (.memory .empty) overtaken overtakenTurns).Done 1 (.ok (.child .gone)) ∧
      ∃ before turn after c, overtakenTurns = before ++ turn :: after ∧ turn.request = 1 ∧
        (Underway.run (.memory .empty) overtaken before).Calling 1 c ∧
        ∀ world : World,
          world.backing = (Underway.run (.memory .empty) overtaken before).store →
            world.misbehaviours = [] →
              ((World.perform (Engine.getChildVersion {} "c" nilId)).run world).1 = .ok .gone := by
  have creates : ∀ order ∈ overtaken, order.engine.createClients = true := by decide
  have fresh : (Underway.run (.memory .empty) overtaken overtakenTurns).transcript.FreshDraws := by
    decide +kernel
  have done : (Underway.run (.memory .empty) overtaken overtakenTurns).Done 1
      (.ok (.child .gone)) := by
    rfl
  obtain ⟨answer, hanswer, moment⟩ :=
    getChildVersion_linearizable .memory creates fresh (i := 1) rfl done
  cases hanswer
  exact ⟨.memory, creates, fresh, rfl, done, moment⟩

end TaskSync.Scenario
