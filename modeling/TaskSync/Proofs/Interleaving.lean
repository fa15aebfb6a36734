import TaskSync.Proofs.Contract
import TaskSync.Proofs.Promises

/-!
# Every interleaving

Whatever the order of turns, the store keeps the ledgers of the calls made so
far, every call was made by the rule, and what is left of every request still
promises what it did at first. No version is added under the id of another,
because ids are drawn once and every request adds one version.
-/

namespace TaskSync.Scenario

open Store

namespace Transcript

theorem mem_commits {t : Transcript} {client : String} {i : Nat} {v : Version} :
    (i, v) ∈ t.commits client ↔ ∃ time record,
      ⟨i, .called ⟨time, .addVersion client v.parent v.id v.segment, .ok (.committed record)⟩⟩ ∈
        t := by
  simp only [commits, List.mem_filterMap]
  constructor
  · rintro ⟨⟨j, deed⟩, hmem, hcommit⟩
    unfold Line.commit? at hcommit
    split at hcommit
    · next j time other parent version segment record hline =>
      split at hcommit
      · next hc =>
        obtain ⟨rfl, rfl⟩ := Prod.mk.inj (Option.some.inj hcommit)
        rw [hline, hc] at hmem
        exact ⟨time, record, hmem⟩
      · cases hcommit
    · cases hcommit
  · rintro ⟨time, record, hmem⟩
    exact ⟨_, hmem, by simp [Line.commit?]⟩

end Transcript

theorem Turn.keeps {stamp : Number → Option Number} {store : Backing} {t : Transcript}
    (turn : Turn) (keeps : store.Keeps stamp t.history) {question : Ask}
    (fresh : ∀ c, question = .store c → c.IsFresh (ledger c.client t.history)) :
    (turn.respond store question).2.1.Keeps stamp
      (t ++ turn.lines (turn.respond store question).2.2).history := by
  cases question with
  | store c =>
    obtain ⟨reply, kept⟩ := keeps.call (fresh c rfl) 0 turn.time
    simpa [Turn.respond, lines, reply] using kept
  | freshId | now | stopwatch | note => simpa [Turn.respond, lines] using keeps

/-- What is left of a request goes on from what it has said, of which the calls and the ids drawn
are in the transcript. -/
def Owes (order : Order) (i : Nat) (d : Conversation Result) (t : Transcript) : Prop :=
  ∃ said, Leads Speaks (Concluded order.engine order.command) d said ∧
    t.placed i = placed said ∧ ∀ id, ⟨.freshId, id⟩ ∈ said → ⟨i, .drew id⟩ ∈ t

namespace Owes

variable {order : Order} {i : Nat} {t : Transcript}

theorem start (order : Order) (i : Nat) :
    Owes order i (carryOut order.engine order.command).run [] :=
  ⟨[], Attempting.carryOut order.engine order.command, rfl, nofun⟩

theorem rule {c : Call} {next : Except Failure c.Reply → Conversation Result}
    (owes : Owes order i (.ask (.store c) next) t) : Rule i order.command t c := by
  obtain ⟨said, leads, calls, draws⟩ := owes
  have asked : Speaks said (.store c) (.error (.plain "")) _ := rfl
  obtain ⟨result, later, concluded⟩ := (leads.of_ask asked).goesOn
  exact (concluded.makes (List.append_assoc ..)).rule calls draws

theorem turn {question : Ask} {next : question.Answer → Conversation Result}
    (owes : Owes order i (.ask question next) t) (turn : Turn) (own : turn.request = i)
    (store : Backing) :
    Owes order i (next (turn.respond store question).1)
      (t ++ turn.lines (turn.respond store question).2.2) := by
  obtain ⟨said, leads, calls, draws⟩ := owes
  subst own
  have answered : Speaks said question (turn.respond store question).1 _ := rfl
  refine ⟨_, leads.of_ask answered, ?_, ?_⟩
  · rw [Transcript.placed_append, placed_snoc, calls]
    cases question with
    | store c => simp [Turn.respond, Turn.lines, Transcript.placed, Line.placed?, Told.placed?,
        Answered.placed]
    | freshId | now | stopwatch | note => rfl
  · intro id told
    rcases List.mem_append.mp told with told | told
    · exact List.mem_append_left _ (draws id told)
    · cases question with
      | freshId =>
        cases List.mem_singleton.mp told
        exact List.mem_append_right _ (List.mem_singleton_self _)
      | store | now | stopwatch | note => cases List.mem_singleton.mp told

theorem others {d : Conversation Result} (owes : Owes order i d t) {lines : Transcript}
    (other : ∀ line ∈ lines, line.request ≠ i) : Owes order i d (t ++ lines) := by
  obtain ⟨said, leads, calls, draws⟩ := owes
  refine ⟨said, leads, ?_, fun id told => List.mem_append_left _ (draws id told)⟩
  have none : lines.placed i = [] := by
    refine List.filterMap_eq_nil_iff.mpr fun line hline => ?_
    have apart := other line hline
    obtain ⟨j, e | id⟩ := line
    · exact if_neg apart
    · rfl
  rw [Transcript.placed_append, none, List.append_nil, calls]

end Owes

namespace Underway

/-- What holds after any number of turns. -/
structure Holds (stamp : Number → Option Number) (orders : List Order) (u : Underway) : Prop where
  keeps : u.store.Keeps stamp u.transcript.history
  ruled : ∀ earlier i e later, u.transcript = earlier ++ ⟨i, .called e⟩ :: later →
    ∃ order, orders[i]? = some order ∧ Rule i order.command earlier e.call
  owes : ∀ i d, u.requests[i]? = some d →
    ∃ order, orders[i]? = some order ∧ Owes order i d u.transcript

variable {stamp : Number → Option Number} {orders : List Order} {u : Underway}

theorem Holds.start {store : Backing} (keeps : store.Keeps stamp []) (orders : List Order) :
    (start store orders).Holds stamp orders where
  keeps := keeps
  ruled := by
    intro earlier i e later h
    simp [Underway.start] at h
  owes := by
    intro i d hd
    simp only [Underway.start, List.getElem?_map, Option.map_eq_some_iff] at hd
    obtain ⟨order, horder, rfl⟩ := hd
    exact ⟨order, horder, .start order i⟩

theorem Holds.rule (holds : u.Holds stamp orders) {i : Nat} {e : Answered}
    (hmem : ⟨i, .called e⟩ ∈ u.transcript) :
    ∃ order earlier, orders[i]? = some order ∧ earlier <+: u.transcript ∧
      Rule i order.command earlier e.call := by
  obtain ⟨earlier, later, hsplit⟩ := List.append_of_mem hmem
  obtain ⟨order, horder, rule⟩ := holds.ruled _ _ _ _ hsplit
  exact ⟨order, earlier, horder, ⟨_, hsplit.symm⟩, rule⟩

theorem Holds.isFresh (holds : u.Holds stamp orders) (fresh : u.transcript.FreshDraws) {i : Nat}
    {command : Http.Command} {c : Call} (rule : Rule i command u.transcript c) :
    c.IsFresh (ledger c.client u.transcript.history) := by
  cases c with
  | getClient client => trivial
  | createClient client => trivial
  | getVersionByParent client parent => trivial
  | addSnapshot client version data prune => trivial
  | getSnapshot client => trivial
  | addVersion client parent version segment =>
    obtain ⟨-, drew, none⟩ := rule
    intro hmem
    rcases List.mem_cons.mp hmem with rfl | hmem
    · exact fresh.2 (Transcript.mem_draws.mpr ⟨i, drew⟩)
    · obtain ⟨v, hv, rfl⟩ := List.mem_map.mp hmem
      rw [← Transcript.map_commits] at hv
      obtain ⟨⟨j, v⟩, hcommit, rfl⟩ := List.mem_map.mp hv
      obtain ⟨time, record, hline⟩ := Transcript.mem_commits.mp hcommit
      -- Whoever added the other version drew its id, and added no other.
      obtain ⟨order, earlier, -, hpre, -, drewOther, -⟩ := holds.rule hline
      obtain rfl := fresh.drawn_once drew (hpre.subset drewOther)
      exact none _ hline rfl

theorem Holds.turn (holds : u.Holds stamp orders) (fresh : u.transcript.FreshDraws)
    (turn : Turn) : (u.turn turn).Holds stamp orders := by
  rcases u.turn_cases turn with hu | ⟨question, next, hq, hu⟩
  · rw [hu]
    exact holds
  obtain ⟨order, horder, owes⟩ := holds.owes _ _ hq
  have ruled (c : Call) (asked : question = .store c) :
      Rule turn.request order.command u.transcript c := by
    subst asked
    exact owes.rule
  have kept := turn.keeps holds.keeps fun c asked => holds.isFresh fresh (ruled c asked)
  have deeds := turn.respond_deeds u.store question
  have more := owes.turn turn rfl u.store
  rw [hu]
  generalize turn.respond u.store question = responded at kept deeds more ⊢
  constructor
  case keeps => exact kept
  case ruled =>
    intro earlier i e later hsplit
    dsimp only at hsplit
    rcases deeds with hd | ⟨deed, hd, hcall⟩
    · rw [hd, Turn.lines, List.map_nil, List.append_nil] at hsplit
      exact holds.ruled _ _ _ _ hsplit
    · rw [hd, Turn.lines, List.map_cons, List.map_nil] at hsplit
      rcases snoc_eq_split hsplit with ⟨rfl, hline⟩ | ⟨rest, hrest⟩
      · obtain ⟨rfl, rfl⟩ := Line.mk.inj hline
        exact ⟨order, horder, ruled e.call (hcall e rfl)⟩
      · exact holds.ruled _ _ _ _ hrest
  case owes =>
    intro i d hd
    by_cases hi : turn.request = i
    · subst hi
      simp only [List.getElem?_set_self', hq, Option.map_eq_map, Option.map_some,
        Function.const_apply, Option.some.injEq] at hd
      subst hd
      exact ⟨order, horder, more⟩
    · simp only [List.getElem?_set_ne hi] at hd
      obtain ⟨other, hother, owed⟩ := holds.owes i d hd
      refine ⟨other, hother, owed.others fun line hline => ?_⟩
      obtain ⟨deed, -, rfl⟩ := List.mem_map.mp hline
      exact hi

theorem Holds.run {store : Backing} (keeps : store.Keeps stamp []) (orders : List Order)
    {turns : List Turn} (fresh : (run store orders turns).transcript.FreshDraws) :
    (run store orders turns).Holds stamp orders := by
  induction turns using List.reverseRecOn with
  | nil => exact Holds.start keeps orders
  | append_singleton turns turn ih =>
    rw [run_snoc] at fresh ⊢
    have before := fresh.of_isPrefix (transcript_turn _ turn)
    exact (ih before).turn before turn

/-! ## What requests end with -/

theorem Holds.failed (holds : u.Holds stamp orders) {i : Nat} {failure : Failure}
    (done : u.Done i (.error failure)) :
    ∃ order, orders[i]? = some order ∧ order.engine.createClients = false := by
  obtain ⟨order, horder, said, leads, calls, -⟩ := holds.owes _ _ done
  have attempts := leads.of_done.attempts
  rw [← calls] at attempts
  exact ⟨order, horder, attempts.refused holds.keeps.lawful⟩

theorem Holds.justified (holds : u.Holds stamp orders) {i : Nat} {order : Order} {value : Value}
    (horder : orders[i]? = some order) (done : u.Done i (.ok value)) :
    Justified i u.transcript order.command value := by
  obtain ⟨order', horder', said, leads, calls, -⟩ := holds.owes _ _ done
  obtain rfl := Option.some.inj (horder.symm.trans horder')
  have attempts := leads.of_done.attempts
  rw [← calls] at attempts
  exact attempts.justified holds.keeps.lawful

theorem Holds.no_failure (holds : u.Holds stamp orders)
    (creates : ∀ order ∈ orders, order.engine.createClients = true) (i : Nat)
    (failure : Failure) : ¬ u.Done i (.error failure) := by
  intro done
  obtain ⟨order, horder, off⟩ := holds.failed done
  have on := creates order (List.mem_of_getElem? horder)
  rw [off] at on
  cases on

theorem Holds.answered (holds : u.Holds stamp orders)
    (creates : ∀ order ∈ orders, order.engine.createClients = true) {i : Nat} {order : Order}
    (horder : orders[i]? = some order) {result : Result} (done : u.Done i result) :
    ∃ value, result = .ok value ∧ Justified i u.transcript order.command value := by
  cases result with
  | error failure => exact absurd done (holds.no_failure creates i failure)
  | ok value => exact ⟨value, rfl, holds.justified horder done⟩

theorem Holds.no_append_before (holds : u.Holds stamp orders) {i : Nat} {e : Answered}
    {earlier later : Transcript} (hsplit : u.transcript = earlier ++ ⟨i, .called e⟩ :: later)
    (append : methodOf e.call = .addVersion) : NoAppend i earlier := by
  obtain ⟨order, -, rule⟩ := holds.ruled _ _ _ _ hsplit
  obtain ⟨time, call, reply⟩ := e
  cases call with
  | addVersion => exact rule.2.2
  | _ => simp [methodOf] at append

theorem Holds.append_once (holds : u.Holds stamp orders) {i : Nat} {e e' : Answered}
    (he : ⟨i, .called e⟩ ∈ u.transcript) (append : methodOf e.call = .addVersion)
    (he' : ⟨i, .called e'⟩ ∈ u.transcript) (append' : methodOf e'.call = .addVersion) :
    e = e' := by
  obtain ⟨earlier, later, hsplit⟩ := List.append_of_mem he
  rw [hsplit] at he'
  rcases List.mem_append.mp he' with before | after
  · exact absurd append' (holds.no_append_before hsplit append e' before)
  · rcases List.mem_cons.mp after with same | after
    · exact (Deed.called.inj (Line.mk.inj same).2).symm
    · obtain ⟨between, rest, rfl⟩ := List.append_of_mem after
      rw [← List.cons_append, ← List.append_assoc] at hsplit
      have hmem : ⟨i, .called e⟩ ∈ earlier ++ ⟨i, .called e⟩ :: between := by simp
      exact absurd append (holds.no_append_before hsplit append' e hmem)

theorem call_answered {store : Backing} (keeps : store.Keeps stamp []) {turns : List Turn}
    (fresh : (run store orders turns).transcript.FreshDraws) {earlier later : Transcript}
    {i : Nat} {e : Answered}
    (hsplit : (run store orders turns).transcript = earlier ++ ⟨i, .called e⟩ :: later) :
    ∃ before turn after, turns = before ++ turn :: after ∧ turn.request = i ∧
      (run store orders before).Calling i e.call ∧
      (run store orders before).store.Keeps stamp earlier.history ∧
      e.reply = (ledger e.call.client earlier.history).answer stamp e.time e.call := by
  obtain ⟨before, turn, after, hturns, request, hbefore, calling⟩ := called_in hsplit
  have hpre : before <+: turns := ⟨turn :: after, hturns.symm⟩
  have holds := Holds.run keeps orders (fresh.of_isPrefix (transcript_grows hpre))
  have lawful := (Holds.run keeps orders fresh).keeps.lawful
  rw [hsplit, Transcript.history_append, Transcript.history_called] at lawful
  refine ⟨before, turn, after, hturns, request, calling, ?_, lawful.reply⟩
  rw [← hbefore]
  exact holds.keeps

end Underway

end TaskSync.Scenario
