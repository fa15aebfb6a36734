import TaskSync.Proofs.Bookkeeping
import TaskSync.Proofs.Pipeline
import TaskSync.Proofs.Turns

/-!
# Traffic

Several conversations that take turns on one store. Everything said is kept, with
the time, so that what a conversation was answered can be found among all the
calls of the store.
-/

namespace TaskSync

theorem Hears.ignoresAsides : Leads.IgnoresAsides Hears := by
  intro known question answer after hears isAside
  rw [hears, if_pos isAside]

namespace Scenario

open Store

/-! ## Conversations taking turns -/

/-- A turn, and whether the store is out of reach in it. -/
structure Moment extends Turn where
  outage : Option Failure := none

/-- The answer to a question on a store, and the store then. -/
def Moment.answer (moment : Moment) (store : Backing) :
    (question : Ask) → question.Answer × Backing
  | .store c =>
    match moment.outage with
    | some failure => (.error failure, store)
    | none => store.call 0 moment.time c
  | .freshId => (moment.id, store)
  | .now | .stopwatch => (moment.time, store)
  | .note _ => ((), store)

/-- What was said, by which request, and when. -/
structure Spoken where
  request : Nat
  time : Number
  told : Told
deriving DecidableEq

def Spoken.call? : Spoken → Option Answered
  | ⟨_, time, .store c, reply⟩ => some ⟨time, c, reply⟩
  | _ => none

abbrev Log := List Spoken

namespace Log

def history (log : Log) : History := log.filterMap Spoken.call?

def of (log : Log) (i : Nat) : List Told :=
  log.filterMap fun s => if s.request = i then some s.told else none

theorem history_append (log later : Log) :
    history (log ++ later) = log.history ++ history later := List.filterMap_append

theorem of_append (log later : Log) (i : Nat) :
    of (log ++ later) i = log.of i ++ of later i := List.filterMap_append

end Log

/-- A store and what is left of the conversations, with all that was said. -/
structure Traffic (α : Type) where
  store : Backing
  conversations : List (Conversation α)
  log : Log := []

namespace Traffic

variable {α : Type}

/-- A conversation goes on with the answer to its question. Nothing happens if it has none. -/
def turn (t : Traffic α) (moment : Moment) : Traffic α :=
  match t.conversations[moment.request]? with
  | some (.ask question next) =>
    let (answer, store) := moment.answer t.store question
    { store
      conversations := t.conversations.set moment.request (next answer)
      log := t.log ++ [⟨moment.request, moment.time, question, answer⟩] }
  | _ => t

def run (store : Backing) (conversations : List (Conversation α)) (moments : List Moment) :
    Traffic α :=
  moments.foldl turn { store, conversations }

def Done (t : Traffic α) (i : Nat) (value : α) : Prop := t.conversations[i]? = some (.done value)

variable {store : Backing} {conversations : List (Conversation α)}

theorem run_snoc (moments : List Moment) (moment : Moment) :
    run store conversations (moments ++ [moment]) =
      (run store conversations moments).turn moment := by
  unfold run
  rw [List.foldl_append]
  rfl

theorem turn_cases (t : Traffic α) (moment : Moment) :
    t.turn moment = t ∨
      ∃ question next, t.conversations[moment.request]? = some (.ask question next) ∧
        t.turn moment =
          { store := (moment.answer t.store question).2
            conversations :=
              t.conversations.set moment.request (next (moment.answer t.store question).1)
            log := t.log ++
              [⟨moment.request, moment.time, question, (moment.answer t.store question).1⟩] } := by
  unfold turn
  split
  · next question next hq => exact .inr ⟨question, next, hq, rfl⟩
  · exact .inl rfl

/-- Everything was said in a turn of its request, on the store that the turns before had left. -/
theorem said_in {moments : List Moment} {earlier later : Log} {s : Spoken}
    (h : (run store conversations moments).log = earlier ++ s :: later) :
    ∃ before moment after, moments = before ++ moment :: after ∧
      (run store conversations before).log = earlier ∧ moment.time = s.time ∧
      (moment.answer (run store conversations before).store s.told.question).1 = s.told.answer := by
  induction moments using List.reverseRecOn generalizing later with
  | nil => simp [run] at h
  | append_singleton moments moment ih =>
    rw [run_snoc] at h
    have in_before (rest : Log) (h : (run store conversations moments).log = earlier ++ s :: rest) :
        ∃ before own after, moments ++ [moment] = before ++ own :: after ∧
          (run store conversations before).log = earlier ∧ own.time = s.time ∧
          (own.answer (run store conversations before).store s.told.question).1 =
            s.told.answer := by
      obtain ⟨before, own, after, rfl, found⟩ := ih h
      exact ⟨before, own, after ++ [moment], by simp, found⟩
    rcases (run store conversations moments).turn_cases moment with same | ⟨question, next, -, more⟩
    · rw [same] at h
      exact in_before later h
    · rw [more] at h
      rcases snoc_eq_split h with ⟨hlog, rfl⟩ | ⟨rest, hrest⟩
      · exact ⟨moments, moment, [], rfl, hlog, rfl, rfl⟩
      · exact in_before rest hrest

theorem length_conversations (moments : List Moment) :
    (run store conversations moments).conversations.length = conversations.length := by
  induction moments using List.reverseRecOn with
  | nil => rfl
  | append_singleton moments moment ih =>
    rw [run_snoc, ← ih]
    rcases (run store conversations moments).turn_cases moment with same | ⟨_, _, -, more⟩
    · rw [same]
    · rw [more]
      exact List.length_set

theorem times_sublist (moments : List Moment) :
    ((run store conversations moments).log.map (·.time)).Sublist (moments.map (·.time)) := by
  induction moments using List.reverseRecOn with
  | nil => exact List.Sublist.refl _
  | append_singleton moments moment ih =>
    rw [run_snoc, List.map_append]
    rcases (run store conversations moments).turn_cases moment with same | ⟨_, _, -, more⟩
    · rw [same]
      exact ih.trans (List.sublist_append_left ..)
    · rw [more, List.map_append]
      exact ih.append (List.Sublist.refl _)

theorem request_lt (moments : List Moment) {s : Spoken}
    (hs : s ∈ (run store conversations moments).log) : s.request < conversations.length := by
  induction moments using List.reverseRecOn with
  | nil => cases hs
  | append_singleton moments moment ih =>
    rw [run_snoc] at hs
    rcases (run store conversations moments).turn_cases moment with same | ⟨_, _, hq, more⟩
    · rw [same] at hs
      exact ih hs
    · rw [more] at hs
      rcases List.mem_append.mp hs with hs | hs
      · exact ih hs
      · obtain rfl := List.mem_singleton.mp hs
        rw [← length_conversations moments]
        exact (List.getElem?_eq_some_iff.mp hq).1

theorem leads {i : Nat} {post : α → List Told → Prop}
    (starts : ∀ d, conversations[i]? = some d → Leads Speaks post d []) (moments : List Moment)
    {d : Conversation α} (hd : (run store conversations moments).conversations[i]? = some d) :
    Leads Speaks post d ((run store conversations moments).log.of i) := by
  induction moments using List.reverseRecOn generalizing d with
  | nil => exact starts d hd
  | append_singleton moments moment ih =>
    rw [run_snoc] at hd ⊢
    have cases := (run store conversations moments).turn_cases moment
    rcases cases with same | ⟨question, next, hq, more⟩
    · rw [same] at hd ⊢
      exact ih hd
    · rw [more] at hd ⊢
      rw [Log.of_append]
      by_cases hi : moment.request = i
      · subst hi
        simp only [List.getElem?_set_self', hq, Option.map_eq_map, Option.map_some,
          Function.const_apply, Option.some.injEq] at hd
        subst hd
        simp only [Log.of, List.filterMap_cons, List.filterMap_nil, if_true]
        exact (ih hq).of_ask rfl
      · simp only [List.getElem?_set_ne hi] at hd
        simp only [Log.of, List.filterMap_cons, List.filterMap_nil, if_neg hi, List.append_nil]
        exact ih hd

theorem hears {i : Nat} {post : α → List Told → Prop} {d₀ : Conversation α}
    (hi : conversations[i]? = some d₀) (p : Leads Hears post d₀ []) (moments : List Moment)
    {d : Conversation α} (hd : (run store conversations moments).conversations[i]? = some d) :
    Leads Speaks (fun value said => post value (heard said)) d
      ((run store conversations moments).log.of i) := by
  refine leads ?_ moments hd
  intro d hd
  obtain rfl := Option.some.inj (hi.symm.trans hd)
  exact Leads.speaks p

theorem tracks_outage {store : Backing} {h : History} (tracks : Recorded.Tracks ⟨store, h⟩)
    (time : Number) (c : Call) (failure : Failure) :
    Recorded.Tracks ⟨store, h ++ [⟨time, c, .error failure⟩]⟩ := by
  have same (client : String) : ledger client (h ++ [⟨time, c, .error failure⟩]) =
      ledger client h := by
    rw [ledger_snoc, ite_eq_right_iff]
    intro _
    cases c <;> rfl
  exact ⟨tracks.calm, fun client => by rw [same, tracks.rows], fun client => by
    rw [same]
    exact tracks.tallied client⟩

/-- Through any outages the store has what the ledgers of its calls say. -/
theorem tracks (new : store.IsNew) (moments : List Moment) :
    Recorded.Tracks ⟨(run store conversations moments).store,
      (run store conversations moments).log.history⟩ := by
  induction moments using List.reverseRecOn with
  | nil => exact Recorded.tracks new []
  | append_singleton moments moment ih =>
    rw [run_snoc]
    rcases (run store conversations moments).turn_cases moment with same | ⟨question, next, -, more⟩
    · rw [same]
      exact ih
    · rw [more, Log.history_append]
      cases question with
      | store c =>
        cases hm : moment.outage with
        | none =>
          simp only [Moment.answer, hm]
          exact ih.call moment.time c
        | some failure =>
          simp only [Moment.answer, hm]
          exact tracks_outage ih moment.time c failure
      | freshId | now | stopwatch | note =>
        rw [show Log.history [_] = [] from rfl, List.append_nil]
        exact ih

end Traffic

end Scenario

end TaskSync
