import Mathlib.Data.List.Basic
import TaskSync.Operation

/-!
# Where conversations lead

What a conversation ends with, and in which state, when every step of it may go
in all the ways that a relation allows. One such relation allows every answer
and keeps all that was said. What holds of all that is said holds by every other
relation too, of the calls that this one allows.
-/

namespace TaskSync

section

variable {σ α β : Type} (step : σ → (question : Ask) → question.Answer → σ → Prop)

/-- However its questions are answered, a conversation ends with a value and a state as stated. -/
def Leads (post : α → σ → Prop) : Conversation α → σ → Prop
  | .done value, s => post value s
  | .ask question next, s =>
    ∀ answer after, step s question answer after → Leads post (next answer) after

/-- An operation has a result as stated, or a failure as stated. -/
def Outcome (halts : Failure → σ → Prop) (post : α → σ → Prop) : Except Failure α → σ → Prop
  | .ok value, s => post value s
  | .error failure, s => halts failure s

variable {step} {s : σ}

namespace Leads

theorem done {post : α → σ → Prop} {value : α} (hpost : post value s) :
    Leads step post (.done value) s :=
  hpost

theorem of_done {post : α → σ → Prop} {value : α} (p : Leads step post (.done value) s) :
    post value s :=
  p

theorem of_ask {post : α → σ → Prop} {question : Ask} {next : question.Answer → Conversation α}
    (p : Leads step post (.ask question next) s) {answer : question.Answer} {after : σ}
    (taken : step s question answer after) : Leads step post (next answer) after :=
  p answer after taken

theorem mono {post post' : α → σ → Prop} (hpost : ∀ a s, post a s → post' a s)
    {d : Conversation α} (p : Leads step post d s) : Leads step post' d s := by
  induction d generalizing s with
  | done value => exact hpost value s p
  | ask question next ih => exact fun answer after taken => ih answer (p answer after taken)

theorem bind {post : β → σ → Prop} {d : Conversation α} {f : α → Conversation β}
    (p : Leads step (fun a s => Leads step post (f a) s) d s) : Leads step post (d >>= f) s := by
  induction d generalizing s with
  | done value => exact p
  | ask question next ih => exact fun answer after taken => ih answer (p answer after taken)

theorem ask {question : Ask} {post : question.Answer → σ → Prop}
    (p : ∀ answer after, step s question answer after → post answer after) :
    Leads step post (Operation.ask question) s :=
  p

variable {halts : Failure → σ → Prop}

theorem map {post : β → σ → Prop} {x : Operation α} {f : α → β}
    (p : Leads step (Outcome halts fun a s => post (f a) s) x.run s) :
    Leads step (Outcome halts post) (f <$> x).run s := by
  refine bind (p.mono ?_)
  rintro (failure | a) after p
  · exact p
  · exact p

/-! ## Parts -/

theorem of_bind {post : β → σ → Prop} {d : Conversation α} {f : α → Conversation β}
    (p : Leads step post (d >>= f) s) : Leads step (fun a s => Leads step post (f a) s) d s := by
  induction d generalizing s with
  | done value => exact p
  | ask question next ih => exact fun answer after taken => ih answer (p answer after taken)

theorem of_map {post : Except Failure β → σ → Prop} {x : Operation α} {f : α → β}
    (p : Leads step post (f <$> x).run s) :
    Leads step (fun result after => post (result.map f) after) x.run s := by
  refine (of_bind p).mono ?_
  rintro (failure | a) after p
  · exact p
  · exact p

end Leads

end

-- Unification must not open where a conversation leads: it would run the conversation.
attribute [irreducible] Leads

/-! ## All that is said -/

instance : (c : Store.Call) → DecidableEq c.Reply
  | .getClient _ => inferInstanceAs (DecidableEq (Option Client))
  | .createClient _ => inferInstanceAs (DecidableEq Client)
  | .getVersionByParent .. => inferInstanceAs (DecidableEq (Option Version))
  | .addVersion .. => inferInstanceAs (DecidableEq Store.Appended)
  | .addSnapshot .. => inferInstanceAs (DecidableEq Store.Stored)
  | .getSnapshot _ => inferInstanceAs (DecidableEq (Option Snapshot))

instance : (question : Ask) → DecidableEq question.Answer
  | .store c => inferInstanceAs (DecidableEq (Except Failure c.Reply))
  | .freshId => inferInstanceAs (DecidableEq String)
  | .now | .stopwatch => inferInstanceAs (DecidableEq Number)
  | .note _ => inferInstanceAs (DecidableEq Unit)

/-- A question with its answer. -/
structure Told where
  question : Ask
  answer : question.Answer
deriving DecidableEq

/-- A version was committed for a client, whose record is told. -/
abbrev Told.commit (client parent version : String) (segment : Bytes) (record : Client) : Told :=
  ⟨.store (.addVersion client parent version segment), .ok (.committed record)⟩

/-! ## One conversation in any surroundings -/

/-- Every answer is possible, and all that was said is remembered. -/
def Speaks (said : List Told) (question : Ask) (answer : question.Answer) (after : List Told) :
    Prop :=
  after = said ++ [⟨question, answer⟩]

/-- How the surroundings behave: what a question is answered after others. -/
abbrev Surroundings := List Told → (question : Ask) → question.Answer

section

variable {α : Type} {post : α → List Told → Prop} {said : List Told}

/-- The end of a conversation that goes on after some was said, and all that is said then. -/
def converse (around : Surroundings) : Conversation α → List Told → α × List Told
  | .done value, said => (value, said)
  | .ask question next, said =>
    converse around (next (around said question)) (said ++ [⟨question, around said question⟩])

theorem converse_grows (around : Surroundings) (d : Conversation α) (said : List Told) :
    said <+: (converse around d said).2 := by
  induction d generalizing said with
  | done value => exact List.prefix_refl said
  | ask question next ih => exact (List.prefix_append ..).trans (ih ..)

theorem Leads.converse {d : Conversation α} (p : Leads Speaks post d said)
    (around : Surroundings) :
    post (converse around d said).1 (converse around d said).2 := by
  induction d generalizing said with
  | done value => exact p.of_done
  | ask question next ih => exact ih _ (p.of_ask rfl)

theorem Leads.goesOn {d : Conversation α} (p : Leads Speaks post d said) :
    ∃ value later, post value (said ++ later) := by
  let around : Surroundings := fun _ question =>
    match question with
    | .store _ => .error (.plain "")
    | .freshId => ""
    | .now | .stopwatch => 0
    | .note _ => ()
  obtain ⟨later, more⟩ := converse_grows around d said
  refine ⟨(TaskSync.converse around d said).1, later, ?_⟩
  rw [more]
  exact p.converse around

end

/-! ## Without asides -/

/-- Whether a question is neither put to the store nor about the time of day. -/
def Ask.isAside : Ask → Bool
  | .store _ | .now => false
  | .freshId | .stopwatch | .note _ => true

def heard (said : List Told) : List Told := said.filter fun told => !told.question.isAside

theorem heard_append (said later : List Told) : heard (said ++ later) = heard said ++ heard later :=
  List.filter_append said later

theorem heard_snoc (said : List Told) (told : Told) :
    heard (said ++ [told]) =
      if told.question.isAside then heard said else heard said ++ [told] := by
  rw [heard_append]
  cases aside : told.question.isAside <;> simp [heard, aside]

/-- Every answer is possible, and all but the asides is remembered. -/
def Hears (known : List Told) (question : Ask) (answer : question.Answer) (after : List Told) :
    Prop :=
  after = if question.isAside then known else known ++ [⟨question, answer⟩]

section

variable {α : Type} {post : α → List Told → Prop} {said : List Told}

theorem Leads.speaks {d : Conversation α} (p : Leads Hears post d (heard said)) :
    Leads Speaks (fun value said => post value (heard said)) d said := by
  induction d generalizing said with
  | done value => exact done p.of_done
  | ask question next ih =>
    refine bind (ask ?_)
    rintro answer _ rfl
    exact ih answer (p.of_ask (heard_snoc said ⟨question, answer⟩))

theorem Leads.hears {d : Conversation α}
    (p : Leads Speaks (fun value said => post value (heard said)) d said) :
    Leads Hears post d (heard said) := by
  induction d generalizing said with
  | done value => exact done p.of_done
  | ask question next ih =>
    refine bind (ask ?_)
    rintro answer _ rfl
    have step : heard (said ++ [⟨question, answer⟩]) = _ := heard_snoc said ⟨question, answer⟩
    rw [← step]
    exact ih answer (p.of_ask rfl)

end

/-! ## The calls among it -/

/-- A call with its reply. -/
structure Placed where
  call : Store.Call
  reply : Except Failure call.Reply

def Told.placed? : Told → Option Placed
  | ⟨.store c, reply⟩ => some ⟨c, reply⟩
  | _ => none

theorem Told.placed?_eq_none {told : Told} (other : ∀ c, told.question ≠ .store c) :
    told.placed? = none := by
  obtain ⟨question, answer⟩ := told
  cases question with
  | store c => exact absurd rfl (other c)
  | freshId | now | stopwatch | note => rfl

def placed (said : List Told) : List Placed := said.filterMap Told.placed?

theorem mem_placed {said : List Told} {c : Store.Call} {reply : Except Failure c.Reply}
    (told : ⟨.store c, reply⟩ ∈ said) : ⟨c, reply⟩ ∈ placed said :=
  List.mem_filterMap.mpr ⟨_, told, rfl⟩

theorem placed_append (said later : List Told) :
    placed (said ++ later) = placed said ++ placed later := List.filterMap_append

theorem placed_snoc (said : List Told) (told : Told) :
    placed (said ++ [told]) = placed said ++ told.placed?.toList := by
  rw [placed_append]
  cases h : told.placed? <;> simp [placed, h]

theorem placed_heard (said : List Told) : placed (heard said) = placed said := by
  unfold placed heard
  rw [List.filterMap_filter]
  refine List.filterMap_congr fun told _ => ?_
  obtain ⟨question, answer⟩ := told
  cases question <;> rfl

section

variable {σ α : Type}

/-- One call after the other brings a state further. -/
def Calls (step : σ → (c : Store.Call) → Except Failure c.Reply → σ → Prop) :
    σ → List Placed → σ → Prop
  | s, [], after => after = s
  | s, p :: rest, after => ∃ between, step s p.call p.reply between ∧ Calls step between rest after

theorem Calls.append_iff {step : σ → (c : Store.Call) → Except Failure c.Reply → σ → Prop}
    {first rest : List Placed} {s after : σ} :
    Calls step s (first ++ rest) after ↔
      ∃ between, Calls step s first between ∧ Calls step between rest after := by
  induction first generalizing s with
  | nil => simp [Calls]
  | cons p first ih =>
    simp only [List.cons_append, Calls, ih]
    constructor
    · rintro ⟨next, taken, between, made, more⟩
      exact ⟨between, ⟨next, taken, made⟩, more⟩
    · rintro ⟨between, ⟨next, taken, made⟩, more⟩
      exact ⟨next, taken, between, made, more⟩

theorem Calls.snoc {step : σ → (c : Store.Call) → Except Failure c.Reply → σ → Prop}
    {calls : List Placed} {s between after : σ} (made : Calls step s calls between) {p : Placed}
    (taken : step between p.call p.reply after) : Calls step s (calls ++ [p]) after :=
  append_iff.mpr ⟨between, made, after, taken, rfl⟩

/-- Nothing but calls changes a state. -/
def CallsOnly (step : σ → (question : Ask) → question.Answer → σ → Prop) : Prop :=
  ∀ s question answer after, step s question answer after →
    (∀ c, question ≠ .store c) → after = s

/-- What holds of all that is said in any surroundings holds of the calls that a relation allows. -/
theorem Leads.calls {step : σ → (question : Ask) → question.Answer → σ → Prop}
    (only : CallsOnly step) {post : α → List Told → Prop} {d : Conversation α}
    (p : Leads Speaks post d []) (s : σ) :
    Leads step (fun value after => ∃ said, post value said ∧
      Calls (fun s c => step s (.store c)) s (placed said) after) d s := by
  -- Carried along is that the calls among what was said have led to the state.
  suffices general : ∀ said between, Leads Speaks post d said →
      Calls (fun s c => step s (.store c)) s (placed said) between →
      Leads step (fun value after => ∃ said, post value said ∧
        Calls (fun s c => step s (.store c)) s (placed said) after) d between from
    general [] s p rfl
  clear p
  intro said between p made
  induction d generalizing said between with
  | done value => exact done ⟨said, p.of_done, made⟩
  | ask question next ih =>
    refine bind (ask fun answer after taken => ih answer _ after (p.of_ask rfl) ?_)
    rw [placed_snoc]
    cases question with
    | store c => exact made.snoc taken
    | freshId | now | stopwatch | note =>
      obtain rfl := only _ _ _ _ taken nofun
      simpa [Told.placed?] using made

end

end TaskSync
