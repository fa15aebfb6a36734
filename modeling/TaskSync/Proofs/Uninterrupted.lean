import TaskSync.Proofs.Contract
import TaskSync.Proofs.Conversations

/-!
# Operations that are not interrupted

What an operation of the engine answers when nothing comes in between, in a
world whose store keeps ledgers.
-/

namespace TaskSync.Scenario

open Store
open Http (Command)

theorem carryOut_reads (engine : Engine) (command : Command)
    (reads : ∀ client parent segment, command ≠ .addVersion client parent segment) :
    Leads Speaks (fun _ said => ∀ p ∈ placed said, ∀ l, p.call.IsFresh l)
      (carryOut engine command).run [] := by
  refine (Attempting.carryOut engine command).mono fun result said concluded => ?_
  refine concluded.attempts.forall_calls (P := fun c => ∀ l, c.IsFresh l) (fun _ => trivial)
    (fun _ _ => trivial) ?_
  rintro _ (⟨client, parent, version, segment⟩ | _ | _ | _) l
  · exact absurd rfl (reads client parent segment)
  all_goals trivial

namespace World

variable {α : Type} {stamp : Number → Option Number} {h : History} {w : World}

def called (w : World) : (question : Ask) → question.Answer → History
  | .store c, reply => [⟨w.now, c, reply⟩]
  | .freshId, _ | .now, _ | .stopwatch, _ | .note _, _ => []

def calls : World → Conversation α → History
  | _, .done _ => []
  | w, .ask question next =>
    let reply := (respond question).run w
    w.called question reply.1 ++ reply.2.calls (next reply.1)

/-- Nothing stands between the engine and a store that has answered the calls by the ledgers. -/
structure Keeps (w : World) (stamp : Number → Option Number) (h : History) : Prop where
  calm : w.misbehaviours = []
  store : w.backing.Keeps stamp h

theorem respond_store (calm : w.misbehaviours = []) (c : Call) :
    (respond (.store c)).run w = ((w.backing.call 0 w.now c).1,
      { w with
        made := methodOf c :: w.made
        backing := (w.backing.call 0 w.now c).2 }) := by
  simp only [respond, callFromEngine, StateT.run_bind, StateT.run_modify, StateT.run_get,
    pure_bind, calm, List.find?_nil, Option.bind_none]
  rfl

theorem Keeps.respond (keeps : w.Keeps stamp h) {question : Ask}
    (fresh : ∀ c, question = .store c → c.IsFresh (ledger c.client h)) :
    Due stamp h question ((respond question).run w).1
        (w.called question ((respond question).run w).1) ∧
      ((respond question).run w).2.Keeps stamp
        (h ++ w.called question ((respond question).run w).1) := by
  cases question with
  | store c =>
    obtain ⟨reply, kept⟩ := keeps.store.call (fresh c rfl) 0 w.now
    rw [respond_store keeps.calm, reply]
    exact ⟨.store w.now c, keeps.calm, kept⟩
  | freshId => exact ⟨.freshId _, keeps.calm, by rw [called, List.append_nil]; exact keeps.store⟩
  | now => exact ⟨.now _, keeps.calm, by rw [called, List.append_nil]; exact keeps.store⟩
  | stopwatch =>
    exact ⟨.stopwatch _, keeps.calm, by rw [called, List.append_nil]; exact keeps.store⟩
  | note entry =>
    have kept : ((World.note entry).run w).2.Keeps stamp h := by
      unfold World.note
      rw [StateT.run_modify]
      dsimp only [Pure.pure]
      split
      · exact ⟨keeps.calm, keeps.store⟩
      · exact keeps
    exact ⟨.note entry, by rw [called, List.append_nil]; exact kept⟩

/-- What a conversation leads to by the ledgers, it leads to in every world that keeps them. -/
theorem Keeps.leads {post : α → History → Prop} {d : Conversation α} (keeps : w.Keeps stamp h)
    (p : Leads (Steps stamp) post d h)
    (fresh : ∀ before e after, w.calls d = before ++ e :: after →
      e.call.IsFresh (ledger e.call.client (h ++ before))) :
    post ((d.run World.respond).run w).1 (h ++ w.calls d) ∧
      ((d.run World.respond).run w).2.Keeps stamp (h ++ w.calls d) := by
  induction d generalizing w h with
  | done value =>
    rw [calls, List.append_nil]
    exact ⟨p.of_done, keeps⟩
  | ask question next ih =>
    rw [calls] at fresh
    have isFresh : ∀ c, question = .store c → c.IsFresh (ledger c.client h) := by
      rintro c rfl
      exact List.append_nil h ▸ fresh [] _ _ rfl
    obtain ⟨due, kept⟩ := keeps.respond isFresh
    rw [calls, ← List.append_assoc, Dialogue.run_ask, StateT.run_bind]
    generalize (World.respond question).run w = responded at due kept fresh ⊢
    refine ih responded.1 kept (p.of_ask ⟨_, due, rfl⟩) fun before e after split => ?_
    rw [List.append_assoc]
    exact fresh _ e after (by rw [split, List.append_assoc])

theorem Keeps.leads_of_fresh {post : α → History → Prop} {d : Conversation α}
    (keeps : w.Keeps stamp h) (p : Leads (Steps stamp) post d h)
    (fresh : FreshIds (h ++ w.calls d)) :
    post ((d.run World.respond).run w).1 (h ++ w.calls d) ∧
      ((d.run World.respond).run w).2.Keeps stamp (h ++ w.calls d) :=
  keeps.leads p fun before e after split =>
    fresh (h ++ before) e after (by rw [split, List.append_assoc])

theorem speaks {post : α → List Told → Prop} {d : Conversation α} {said : List Told}
    (p : Leads Speaks post d said) (w : World) :
    ∃ later, post ((d.run World.respond).run w).1 (said ++ later) ∧
      placed later = (w.calls d).map (·.placed) := by
  induction d generalizing w said with
  | done value => exact ⟨[], by rw [List.append_nil]; exact p.of_done, rfl⟩
  | ask question next ih =>
    obtain ⟨later, ended, calls⟩ :=
      ih ((respond question).run w).1 (p.of_ask rfl) ((respond question).run w).2
    refine ⟨⟨question, ((respond question).run w).1⟩ :: later, ?_, ?_⟩
    · rwa [List.append_assoc] at ended
    · rw [World.calls, List.map_append, ← calls]
      cases question <;> rfl

theorem Keeps.reads {post : Except Failure α → History → Prop} {x : Operation α}
    (keeps : w.Keeps stamp h) (p : Leads (Steps stamp) post x.run h)
    (reads : Leads Speaks (fun _ said => ∀ p ∈ placed said, ∀ l, p.call.IsFresh l) x.run []) :
    ∃ h', post ((perform x).run w).1 h' ∧ ((perform x).run w).2.Keeps stamp h' := by
  obtain ⟨said, fresh, made⟩ := speaks reads w
  refine ⟨_, keeps.leads p fun before e after split => ?_⟩
  refine fresh e.placed ?_ _
  rw [List.nil_append, made, split]
  exact List.mem_map_of_mem (List.mem_append_right _ List.mem_cons_self)

theorem Keeps.getChildVersion (keeps : w.Keeps stamp h) (engine : Engine) (client parent : String) :
    ∃ h', Outcome (Refused engine h (.getChildVersion client parent))
        (fun answer h' => Quiet h h' ∧ answer = (ledger client h).childAnswer parent)
        ((perform (engine.getChildVersion client parent)).run w).1 h' ∧
      ((perform (engine.getChildVersion client parent)).run w).2.Keeps stamp h' :=
  keeps.reads (getChildVersion_settles engine keeps.store.lawful client parent)
    (Leads.of_map (carryOut_reads engine (.getChildVersion client parent) nofun))

theorem Keeps.childAnswer {client : String} (keeps : w.Keeps stamp h) (engine : Engine)
    (known : (ledger client h).created = true ∨ engine.createClients = true) (parent : String) :
    ∃ after h', (perform (engine.getChildVersion client parent)).run w =
        (.ok ((ledger client h).childAnswer parent), after) ∧
      after.Keeps stamp h' ∧ Quiet h h' := by
  obtain ⟨h', ended, kept⟩ := keeps.getChildVersion engine client parent
  generalize (perform (engine.getChildVersion client parent)).run w = ran at ended kept
  obtain ⟨failure | answer, after⟩ := ran
  · obtain ⟨-, off, unknown, -⟩ := ended
    rcases known with known | on
    · cases unknown.symm.trans known
    · cases off.symm.trans on
  · obtain ⟨quiet, rfl⟩ := ended
    exact ⟨after, h', rfl, kept, quiet⟩

theorem Keeps.getSnapshot (keeps : w.Keeps stamp h) (engine : Engine) (client : String) :
    ∃ h', Outcome (Refused engine h (.getSnapshot client)) (fun snapshot h' =>
        Quiet h h' ∧ ((ledger client h).created = true ∨ engine.createClients = true) ∧
          snapshot = (ledger client h).taken.map fun taken => ⟨taken.version, taken.data⟩)
        ((perform (engine.getSnapshot client)).run w).1 h' ∧
      ((perform (engine.getSnapshot client)).run w).2.Keeps stamp h' :=
  keeps.reads (getSnapshot_settles engine keeps.store.lawful client)
    (Leads.of_map (carryOut_reads engine (.getSnapshot client) nofun))

end World

end TaskSync.Scenario
