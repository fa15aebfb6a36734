import Mathlib.Data.List.Induction
import Mathlib.Data.List.Pairwise
import TaskSync.Proofs.Attempts
import TaskSync.Proofs.Writes

/-!
# Requests taking turns

Several requests to the engine that are there at the same time. They take turns
in any order, and in its turn a request gets the answer to one question. A call
of the store is one question, so that nothing comes in between while it lasts.
-/

namespace TaskSync.Scenario

open Store

/-- A command with the engine that serves it. Several engines may share a store. -/
structure Order where
  engine : Engine
  command : Http.Command

inductive Deed where
  | called (e : Answered)
  | drew (id : String)

/-- What was done, and by which request. -/
structure Line where
  request : Nat
  deed : Deed

namespace Line

def call? : Line → Option Answered
  | ⟨_, .called e⟩ => some e
  | ⟨_, .drew _⟩ => none

def drawn? : Line → Option String
  | ⟨_, .called _⟩ => none
  | ⟨_, .drew id⟩ => some id

def commit? (client : String) : Line → Option (Nat × Version)
  | ⟨i, .called ⟨_, .addVersion other parent version segment, .ok (.committed _)⟩⟩ =>
    if other = client then some (i, ⟨version, parent, segment⟩) else none
  | _ => none

end Line

abbrev Transcript := List Line

namespace Transcript

def history (t : Transcript) : History := t.filterMap Line.call?

def draws (t : Transcript) : List String := t.filterMap Line.drawn?

/-- Whether every id was drawn for the first time and is not the nil id. -/
def FreshDraws (t : Transcript) : Prop := t.draws.Nodup ∧ nilId ∉ t.draws

instance (t : Transcript) : Decidable t.FreshDraws := inferInstanceAs (Decidable (_ ∧ _))

def commits (client : String) (t : Transcript) : List (Nat × Version) :=
  t.filterMap (Line.commit? client)

variable {t s : Transcript}

@[simp] theorem history_append (t s : Transcript) :
    history (t ++ s) = history t ++ history s := List.filterMap_append

@[simp] theorem history_nil : history [] = [] := rfl

@[simp] theorem history_called (i : Nat) (e : Answered) (t : Transcript) :
    history (⟨i, .called e⟩ :: t) = e :: t.history := rfl

@[simp] theorem history_drew (i : Nat) (id : String) (t : Transcript) :
    history (⟨i, .drew id⟩ :: t) = t.history := rfl

theorem map_commit? (client : String) (line : Line) :
    (line.commit? client).map (·.2) = line.call?.bind (·.version? client) := by
  match line with
  | ⟨i, .drew id⟩ => rfl
  | ⟨i, .called ⟨time, .addVersion other parent version segment, .ok (.committed record)⟩⟩ =>
    by_cases own : other = client <;> simp [Line.commit?, Line.call?, Answered.version?, own]
  | ⟨i, .called ⟨time, .addVersion other parent version segment, .ok (.conflict head)⟩⟩
  | ⟨i, .called ⟨time, .addVersion other parent version segment, .error failure⟩⟩
  | ⟨i, .called ⟨time, .addSnapshot .., reply⟩⟩
  | ⟨i, .called ⟨time, .createClient .., reply⟩⟩
  | ⟨i, .called ⟨time, .getClient .., reply⟩⟩
  | ⟨i, .called ⟨time, .getVersionByParent .., reply⟩⟩
  | ⟨i, .called ⟨time, .getSnapshot .., reply⟩⟩ => rfl

theorem map_commits (client : String) (t : Transcript) :
    (t.commits client).map (·.2) = (ledger client t.history).versions := by
  rw [ledger_versions, commits, history, List.map_filterMap, List.filterMap_filterMap]
  exact List.filterMap_congr fun line _ => map_commit? client line

theorem mem_draws {id : String} : id ∈ t.draws ↔ ∃ i, ⟨i, .drew id⟩ ∈ t := by
  simp only [draws, List.mem_filterMap]
  constructor
  · rintro ⟨⟨i, deed⟩, hmem, hid⟩
    cases deed with
    | called e => cases hid
    | drew other =>
      obtain rfl := Option.some.inj hid
      exact ⟨i, hmem⟩
  · rintro ⟨i, hmem⟩
    exact ⟨_, hmem, rfl⟩

theorem FreshDraws.of_isPrefix (fresh : s.FreshDraws) (h : t <+: s) : t.FreshDraws := by
  have hsub : t.draws.Sublist s.draws := h.sublist.filterMap _
  exact ⟨fresh.1.sublist hsub, fun hnil => fresh.2 (hsub.subset hnil)⟩

theorem FreshDraws.drawn_once (fresh : t.FreshDraws) {i j : Nat} {id : String}
    (hi : ⟨i, .drew id⟩ ∈ t) (hj : ⟨j, .drew id⟩ ∈ t) : i = j := by
  by_contra hne
  have hdiff := List.pairwise_filterMap.mp fresh.1
  have symm : Std.Symm fun a b : Line =>
      ∀ x, a.drawn? = some x → ∀ y, b.drawn? = some y → x ≠ y :=
    ⟨fun a b h x hx y hy => (h y hy x hx).symm⟩
  exact hdiff.forall hi hj (fun heq => hne (Line.mk.inj heq).1) id rfl id rfl rfl

end Transcript

/-- Whose turn it is, and what the clocks and the source of ids show then. -/
structure Turn where
  request : Nat
  time : Number
  id : String

/-- Answers a question on a store, and tells what was done. -/
def Turn.respond (turn : Turn) (store : Backing) :
    (question : Ask) → question.Answer × Backing × List Deed
  | .store c =>
    let (reply, store) := store.call 0 turn.time c
    (reply, store, [.called ⟨turn.time, c, reply⟩])
  | .freshId => (turn.id, store, [.drew turn.id])
  | .now | .stopwatch => (turn.time, store, [])
  | .note _ => ((), store, [])

theorem Turn.respond_deeds (turn : Turn) (store : Backing) (question : Ask) :
    (turn.respond store question).2.2 = [] ∨
      ∃ deed, (turn.respond store question).2.2 = [deed] ∧
        ∀ e, deed = .called e → question = .store e.call := by
  cases question with
  | store c =>
    refine .inr ⟨_, rfl, ?_⟩
    rintro e ⟨rfl⟩
    rfl
  | freshId =>
    refine .inr ⟨_, rfl, ?_⟩
    intro e h
    cases h
  | now => exact .inl rfl
  | stopwatch => exact .inl rfl
  | note entry => exact .inl rfl

def Turn.lines (turn : Turn) (deeds : List Deed) : Transcript := deeds.map (⟨turn.request, ·⟩)

/-- A store and what is left of the requests, with the transcript so far. -/
structure Underway where
  store : Backing
  requests : List (Conversation Result)
  transcript : Transcript := []

namespace Underway

def start (store : Backing) (orders : List Order) : Underway where
  store := store
  requests := orders.map fun order => (carryOut order.engine order.command).run

/-- A request goes on with the answer to its question. Nothing happens if it has none. -/
def turn (u : Underway) (turn : Turn) : Underway :=
  match u.requests[turn.request]? with
  | some (.ask question next) =>
    let (answer, store, deeds) := turn.respond u.store question
    { store
      requests := u.requests.set turn.request (next answer)
      transcript := u.transcript ++ turn.lines deeds }
  | _ => u

def run (store : Backing) (orders : List Order) (turns : List Turn) : Underway :=
  turns.foldl turn (start store orders)

def Done (u : Underway) (i : Nat) (result : Result) : Prop :=
  u.requests[i]? = some (.done result)

/-- A request is about to put a call to the store. -/
def Calling (u : Underway) (i : Nat) (c : Call) : Prop :=
  ∃ next, u.requests[i]? = some (.ask (.store c) next)

variable {store : Backing} {orders : List Order}

theorem run_snoc (turns : List Turn) (turn : Turn) :
    run store orders (turns ++ [turn]) = (run store orders turns).turn turn := by
  unfold run
  rw [List.foldl_append]
  rfl

theorem turn_cases (u : Underway) (turn : Turn) :
    u.turn turn = u ∨ ∃ question next, u.requests[turn.request]? = some (.ask question next) ∧
      u.turn turn =
        { store := (turn.respond u.store question).2.1
          requests := u.requests.set turn.request (next (turn.respond u.store question).1)
          transcript := u.transcript ++ turn.lines (turn.respond u.store question).2.2 } := by
  unfold Underway.turn
  split
  · next question next hq => exact .inr ⟨question, next, hq, rfl⟩
  · exact .inl rfl

theorem transcript_turn (u : Underway) (turn : Turn) :
    u.transcript <+: (u.turn turn).transcript := by
  rcases u.turn_cases turn with h | ⟨question, next, -, h⟩
  · exact ⟨[], by rw [h, List.append_nil]⟩
  · rw [h]
    exact List.prefix_append ..

theorem transcript_grows {before turns : List Turn} (h : before <+: turns) :
    (run store orders before).transcript <+: (run store orders turns).transcript := by
  obtain ⟨rest, rfl⟩ := h
  induction rest using List.reverseRecOn with
  | nil => simp
  | append_singleton rest turn ih =>
    rw [← List.append_assoc, run_snoc]
    exact ih.trans (transcript_turn ..)

theorem called_in {turns : List Turn} {earlier later : Transcript} {i : Nat} {e : Answered}
    (h : (run store orders turns).transcript = earlier ++ ⟨i, .called e⟩ :: later) :
    ∃ before turn after, turns = before ++ turn :: after ∧ turn.request = i ∧
      (run store orders before).transcript = earlier ∧
      (run store orders before).Calling i e.call := by
  induction turns using List.reverseRecOn generalizing later with
  | nil => simp [run, start] at h
  | append_singleton turns turn ih =>
    rw [run_snoc] at h
    have later_turn (rest : Transcript)
        (h : (run store orders turns).transcript = earlier ++ ⟨i, .called e⟩ :: rest) :
        ∃ before own after, turns ++ [turn] = before ++ own :: after ∧ own.request = i ∧
          (run store orders before).transcript = earlier ∧
          (run store orders before).Calling i e.call := by
      obtain ⟨before, own, after, rfl, found⟩ := ih h
      exact ⟨before, own, after ++ [turn], by simp, found⟩
    rcases (run store orders turns).turn_cases turn with hu | ⟨question, next, hq, hu⟩
    · rw [hu] at h
      exact later_turn later h
    · rw [hu] at h
      rcases turn.respond_deeds (run store orders turns).store question with hd | ⟨deed, hd, hcall⟩
      · rw [hd] at h
        exact later_turn later (by simpa [Turn.lines] using h)
      · rw [hd] at h
        rcases snoc_eq_split h with ⟨htranscript, hline⟩ | ⟨rest, hrest⟩
        · -- The call was made in the last turn.
          obtain ⟨rfl, rfl⟩ := Line.mk.inj hline
          obtain rfl := hcall e rfl
          exact ⟨turns, turn, [], rfl, rfl, htranscript, next, hq⟩
        · exact later_turn rest hrest

end Underway

end TaskSync.Scenario
