import Mathlib.Data.List.Induction
import TaskSync.Proofs.EmbeddedLedger
import TaskSync.Proofs.MemoryLedger
import TaskSync.Scenario.World

/-!
# The contract of the stores

Both stores keep ledgers. What is answered to a list of calls, and what is in
the store then, follows from the ledgers alone.
-/

namespace TaskSync.Scenario

open Store

namespace Backing

/-- A store that was just opened and that holds nothing. -/
inductive IsNew : Backing → Prop where
  | memory : IsNew (.memory .empty)
  | embedded (onFile : Bool) : IsNew (.embedded { onFile })

/-- What is stored agrees with the ledgers, and nothing fails. -/
def Agrees (stamp : Number → Option Number) (h : History) : Backing → Prop
  | memory state => stamp = some ∧ state.Keeps h
  | embedded host =>
    stamp = Embedded.timeColumn ∧ host.faults = [] ∧ host.closed = [] ∧ host.database.Keeps h
  | unreachable _ => False

/-- The store has answered the calls of a history by their ledgers. -/
structure Keeps (b : Backing) (stamp : Number → Option Number) (h : History) : Prop where
  lawful : Lawful stamp h
  agrees : b.Agrees stamp h

variable {b : Backing} {stamp : Number → Option Number} {h : History}

theorem IsNew.keeps (new : b.IsNew) : ∃ stamp, b.Keeps stamp [] := by
  cases new with
  | memory => exact ⟨_, .nil, rfl, Memory.keeps_empty⟩
  | embedded onFile => exact ⟨_, .nil, rfl, rfl, rfl, Database.Keeps.empty⟩

theorem Keeps.sound (keeps : b.Keeps stamp h) (client : String) : (ledger client h).Sound :=
  keeps.lawful.sound client

theorem Keeps.call (keeps : b.Keeps stamp h) {c : Call} (fresh : c.IsFresh (ledger c.client h))
    (connection : Nat) (time : Number) :
    (b.call connection time c).1 = (ledger c.client h).answer stamp time c ∧
      (b.call connection time c).2.Keeps stamp
        (h ++ [⟨time, c, (ledger c.client h).answer stamp time c⟩]) := by
  have lawful := Lawful.snoc time c keeps.lawful fresh
  have agrees := keeps.agrees
  cases b with
  | memory state =>
    obtain ⟨rfl, kept⟩ := agrees
    obtain ⟨reply, after⟩ := kept.answers keeps.sound time fresh
    exact ⟨reply, lawful, rfl, after⟩
  | embedded host =>
    obtain ⟨rfl, faults, closed, kept⟩ := agrees
    obtain ⟨reply, after⟩ := Embedded.keeps_answers kept keeps.sound time fresh
    simp only [Backing.call, Hosted.run, faults, closed, List.contains_nil, Bool.false_eq_true,
      if_false]
    exact ⟨reply, lawful, rfl, rfl, rfl, after⟩
  | unreachable failure => exact agrees.elim

theorem Keeps.client_reply (keeps : b.Keeps stamp h) {client : String}
    (created : (ledger client h).created = true) (connection : Nat) (time : Number) :
    (b.call connection time (.getClient client)).1 =
      .ok (some ((ledger client h).record stamp client)) := by
  obtain ⟨reply, -⟩ := keeps.call (c := .getClient client) trivial connection time
  rw [reply, Ledger.answer]
  simp only [Call.client, created, if_true]

end Backing

/-! ## Runs of calls -/

/-- A store with the calls that it has answered. -/
structure Recorded where
  store : Backing
  history : History := []

namespace Recorded

def call (r : Recorded) (time : Number) (c : Call) : Recorded :=
  let (reply, store) := r.store.call 0 time c
  ⟨store, r.history ++ [⟨time, c, reply⟩]⟩

def run (start : Backing) (calls : List (Number × Call)) : Recorded :=
  calls.foldl (fun r made => r.call made.1 made.2) ⟨start, []⟩

theorem run_snoc (start : Backing) (calls : List (Number × Call)) (time : Number) (c : Call) :
    run start (calls ++ [(time, c)]) = (run start calls).call time c := by
  unfold run
  rw [List.foldl_append]
  rfl

theorem history_grows (start : Backing) {prior calls : List (Number × Call)}
    (hprior : prior <+: calls) : (run start prior).history <+: (run start calls).history := by
  obtain ⟨later, rfl⟩ := hprior
  induction later using List.reverseRecOn with
  | nil => simp
  | append_singleton later made ih =>
    rw [← List.append_assoc, run_snoc]
    exact ih.trans (List.prefix_append ..)

/-- A new store keeps ledgers for as long as every version has an id of its own. -/
theorem keeps {start : Backing} (new : start.IsNew) :
    ∃ stamp, ∀ calls, FreshIds (run start calls).history →
      (run start calls).store.Keeps stamp (run start calls).history := by
  obtain ⟨stamp, hstart⟩ := new.keeps
  refine ⟨stamp, fun calls => ?_⟩
  induction calls using List.reverseRecOn with
  | nil => exact fun _ => hstart
  | append_singleton calls made ih =>
    rw [run_snoc]
    intro fresh
    have before := ih (fresh.of_isPrefix (List.prefix_append ..))
    obtain ⟨reply, after⟩ := before.call (fresh _ _ [] rfl) 0 made.1
    simp only [call]
    rwa [reply]

end Recorded

end TaskSync.Scenario
