import TaskSync.Proofs.Conversing

/-!
# In lockstep

Two conversations that ask the same of their surroundings. They may write
different things to the journal, and they may be answered differently, as long as
they go on alike. If they are answered the same but for what is said in failures,
what the first has said can be kept track of.
-/

namespace TaskSync

section

variable {α β γ δ : Type} (alike : (question : Ask) → question.Answer → question.Answer → Prop)

/-- Both conversations ask the same questions and write to the journal at the same places. On
answers that are alike they go on so, and end as related. -/
inductive Matches (related : α → β → Prop) : Conversation α → Conversation β → Prop where
  | done {a : α} {b : β} (h : related a b) : Matches related (.done a) (.done b)
  | ask {question : Ask} {next : question.Answer → Conversation α}
      {next' : question.Answer → Conversation β}
      (h : ∀ x y, alike question x y → Matches related (next x) (next' y)) :
      Matches related (.ask question next) (.ask question next')
  | note (entry entry' : Journal.Entry) {next : Unit → Conversation α}
      {next' : Unit → Conversation β} (h : Matches related (next ()) (next' ())) :
      Matches related (.ask (.note entry) next) (.ask (.note entry') next')

variable {alike}

namespace Matches

variable {related : α → β → Prop} {related' : γ → δ → Prop}

theorem bind {d : Conversation α} {d' : Conversation β} {f : α → Conversation γ}
    {f' : β → Conversation δ} (p : Matches alike related d d')
    (h : ∀ a b, related a b → Matches alike related' (f a) (f' b)) :
    Matches alike related' (d >>= f) (d' >>= f') := by
  induction p with
  | done ends => exact h _ _ ends
  | ask _ ih => exact .ask fun x y same => ih x y same
  | note entry entry' _ ih => exact .note entry entry' ih

theorem query (question : Ask) :
    Matches alike (alike question) (Operation.ask question) (Operation.ask question) :=
  .ask fun _ _ same => .done same

theorem noting (entry entry' : Journal.Entry) :
    Matches alike Eq (Operation.ask (.note entry)) (Operation.ask (.note entry')) :=
  .note entry entry' (.done rfl)

theorem mono {weaker : α → β → Prop} (h : ∀ a b, related a b → weaker a b) {d : Conversation α}
    {d' : Conversation β} (p : Matches alike related d d') : Matches alike weaker d d' := by
  induction p with
  | done ends => exact .done (h _ _ ends)
  | ask _ ih => exact .ask ih
  | note entry entry' _ ih => exact .note entry entry' ih

theorem refl (d : Conversation α) : Matches (fun _ => Eq) Eq d d := by
  induction d with
  | done value => exact .done rfl
  | ask question next ih => exact .ask fun x y same => same ▸ ih x

end Matches

end

/-! ## Failures of one role -/

/-- What an operation looks at in a failure. -/
inductive Failure.Role where
  | noSuchClient
  | clientAlreadyExists
  | other
deriving DecidableEq

def Failure.role : Failure → Role
  | noSuchClient _ => .noSuchClient
  | clientAlreadyExists _ => .clientAlreadyExists
  | _ => .other

theorem Failure.role_eq_clientAlreadyExists {failure : Failure} :
    failure.role = .clientAlreadyExists ↔ ∃ id, failure = .clientAlreadyExists id := by
  cases failure <;> simp [role]

/-- The same value, or failures of one role. -/
inductive Kindred {α : Type} : Except Failure α → Except Failure α → Prop where
  | ok (value : α) : Kindred (.ok value) (.ok value)
  | error {failure failure' : Failure} (same : failure.role = failure'.role) :
      Kindred (.error failure) (.error failure')

theorem Kindred.refl {α : Type} (result : Except Failure α) : Kindred result result := by
  cases result with
  | ok value => exact .ok value
  | error failure => exact .error rfl

/-- Answers that differ in failures only, and not in their roles. -/
def Alike : (question : Ask) → question.Answer → question.Answer → Prop
  | .store _ => Kindred
  | .freshId | .now | .stopwatch | .note _ => Eq

theorem Alike.refl (question : Ask) (answer : question.Answer) : Alike question answer answer := by
  cases question with
  | store c => exact Kindred.refl answer
  | freshId | now | stopwatch | note => exact Eq.refl answer

/-! ## Side by side -/

section

variable {α β : Type}

/-- Both conversations ask the same as long as their answers are alike, and end with kindred
results. The end is as stated for what the first has said. -/
inductive Abreast (post : Except Failure α → List Told → Prop) :
    Conversation (Except Failure α) → Conversation (Except Failure α) → List Told → Prop where
  | done {result result' : Except Failure α} {said : List Told} (same : Kindred result result')
      (ends : post result said) : Abreast post (.done result) (.done result') said
  | ask {question : Ask} {next next' : question.Answer → Conversation (Except Failure α)}
      {said : List Told}
      (goes : ∀ answer answer', Alike question answer answer' →
        Abreast post (next answer) (next' answer') (said ++ [⟨question, answer⟩])) :
      Abreast post (.ask question next) (.ask question next') said

namespace Abreast

variable {post : Except Failure α → List Told → Prop}
  {d d' : Conversation (Except Failure α)} {said : List Told}

theorem leads (p : Abreast post d d' said) : Leads Speaks post d said := by
  induction p with
  | done _ ends => exact Leads.done ends
  | @ask question _ _ _ _ ih =>
    refine Leads.bind (Leads.ask ?_)
    rintro answer _ rfl
    exact ih answer answer (.refl question answer)

theorem lockstep (p : Abreast post d d' said) : Matches Alike Kindred d d' := by
  induction p with
  | done same => exact .done same
  | ask _ ih => exact .ask ih

theorem mono {weaker : Except Failure α → List Told → Prop}
    (h : ∀ result said, post result said → weaker result said) (p : Abreast post d d' said) :
    Abreast weaker d d' said := by
  induction p with
  | done same ends => exact .done same (h _ _ ends)
  | ask _ ih => exact .ask ih

theorem bind {last : Except Failure β → List Told → Prop}
    {f f' : Except Failure α → Conversation (Except Failure β)} (p : Abreast post d d' said)
    (h : ∀ result result' said, Kindred result result' → post result said →
      Abreast last (f result) (f' result') said) : Abreast last (d >>= f) (d' >>= f') said := by
  induction p with
  | done same ends => exact h _ _ _ same ends
  | ask _ ih => exact .ask ih

/-! ### Operations -/

/-- An operation in two surroundings that answer it alike. -/
abbrev Goes (x : Operation α) (post : Except Failure α → List Told → Prop) (said : List Told) :
    Prop :=
  Abreast post x.run x.run said

variable {halts : Failure → List Told → Prop}

theorem returns {post : α → List Told → Prop} {value : α} (ends : post value said) :
    Abreast (Outcome halts post) (.done (.ok value)) (.done (.ok value)) said :=
  .done (.ok value) ends

theorem throws {post : α → List Told → Prop} {failure failure' : Failure}
    (same : failure.role = failure'.role) (ends : halts failure said) :
    Abreast (Outcome halts post) (.done (.error failure)) (.done (.error failure')) said :=
  .done (.error same) ends

theorem andThen {post : β → List Told → Prop} {x x' : Operation α} {f f' : α → Operation β}
    (p : Abreast (Outcome halts fun a said =>
      Abreast (Outcome halts post) (f a).run (f' a).run said) x.run x'.run said) :
    Abreast (Outcome halts post) (x >>= f).run (x' >>= f').run said := by
  refine p.bind ?_
  rintro _ _ said (value | same) ends
  · exact ends
  · exact .throws same ends

theorem map {post : β → List Told → Prop} {x x' : Operation α} {f : α → β}
    (p : Abreast (Outcome halts fun a said => post (f a) said) x.run x'.run said) :
    Abreast (Outcome halts post) (f <$> x).run (f <$> x').run said := by
  refine p.bind ?_
  rintro _ _ said (value | same) ends
  · exact .returns ends
  · exact .throws same ends

theorem call {c : Store.Call} {post : c.Reply → List Told → Prop}
    (fails : ∀ failure, halts failure (said ++ [⟨.store c, .error failure⟩]))
    (p : ∀ reply, post reply (said ++ [⟨.store c, .ok reply⟩])) :
    Goes (Operation.call c) (Outcome halts post) said := by
  refine .ask ?_
  rintro _ _ (reply | @⟨failure, _, same⟩)
  · exact .returns (p reply)
  · exact .throws same (fails failure)

theorem attempt {c : Store.Call} {post : β → List Told → Prop}
    {f : Except Failure c.Reply → Operation β}
    (p : ∀ reply reply', Kindred reply reply' → Abreast (Outcome halts post) (f reply).run
      (f reply').run (said ++ [⟨.store c, reply⟩])) :
    Goes (Operation.attempt c >>= f) (Outcome halts post) said :=
  .ask p

theorem lift {question : Ask} (told : ∀ x y, Alike question x y → x = y)
    {post : question.Answer → List Told → Prop}
    (p : ∀ answer, post answer (said ++ [⟨question, answer⟩])) :
    Goes (ExceptT.lift (Operation.ask question)) (Outcome halts post) said := by
  refine .ask fun answer answer' alike => ?_
  obtain rfl := told answer answer' alike
  exact .returns (p answer)

theorem freshId {post : String → List Told → Prop}
    (p : ∀ id, post id (said ++ [⟨.freshId, id⟩])) :
    Goes Operation.freshId (Outcome halts post) said :=
  lift (fun _ _ => id) p

theorem now {post : Number → List Told → Prop}
    (p : ∀ time, post time (said ++ [⟨.now, time⟩])) :
    Goes Operation.now (Outcome halts post) said :=
  lift (fun _ _ => id) p

theorem note {entry : Journal.Entry} {post : Unit → List Told → Prop}
    (p : post () (said ++ [⟨.note entry, ()⟩])) :
    Goes (Operation.note entry) (Outcome halts post) said :=
  lift (fun _ _ => id) fun _ => p

end Abreast

end

end TaskSync
