import TaskSync.Proofs.Recovery
import TaskSync.Proofs.Serving

/-!
# Being told before pushing

A replica asks what follows a version, and then pushes one behind it. Whether
the version is up to date is decided twice, by the engine when it is asked and
by the store when it is pushed to. The two agree unless the chain is empty and
the replica has a version of its own: it is told that there is nothing newer,
and may never push.
-/

namespace TaskSync

open Store

/-- What is said first fits what comes of the push. -/
def Truthful (told : ChildAnswer) (taken : AddVersionAnswer) : Prop :=
  (told = .upToDate ↔ ∃ version urgency, taken = .added version urgency) ∧
    (((∃ version, told = .found version) ∨ told = .gone) ↔ ∃ head, taken = .conflict head)

theorem truthful_iff (told : ChildAnswer) (taken : AddVersionAnswer) :
    Truthful told taken ↔
      (told = .upToDate ↔ ∃ version urgency, taken = .added version urgency) := by
  unfold Truthful
  cases told <;> cases taken <;> simp

namespace Store.Ledger.Sound

variable {l : Ledger}

theorem childAnswer_eq_upToDate (sound : l.Sound) (parent : String) :
    l.childAnswer parent = .upToDate ↔ l.head = parent ∨ l.head = nilId := by
  constructor
  · intro told
    cases child : l.child? parent with
    | some version =>
      rw [childAnswer_of_some child] at told
      cases told
    | none =>
      rw [childAnswer_of_none child] at told
      by_contra other
      rw [if_neg other] at told
      cases told
  · rintro (rfl | nil)
    · exact childAnswer_head sound
    · exact childAnswer_of_head_nil sound nil parent

end Store.Ledger.Sound

namespace Scenario

open Http (Command)

/-- What a replica is told, how its push is taken then, and the calls made for both. -/
structure Push where
  told : Except Failure ChildAnswer
  taken : Except Failure AddVersionAnswer
  calls : History

/-- Asks what follows a version, and pushes one behind it with nothing in between. -/
def World.push (engine : Engine) (client parent : String) (segment : Bytes) (w : World) :
    Push :=
  let ask := engine.getChildVersion client parent
  let add := engine.addVersion client parent segment
  let asked := (World.perform ask).run w
  ⟨asked.1, ((World.perform add).run asked.2).1, w.calls ask.run ++ asked.2.calls add.run⟩

variable {stamp : Number → Option Number} {h : History} {w : World}

/-- The two decisions of one push, by the head before it. -/
inductive Decided (l : Ledger) (parent : String) : Push → Prop where
  | taken (head : l.head = parent) (version : String) (urgency : Urgency) (calls : History) :
      Decided l parent ⟨.ok .upToDate, .ok (.added version urgency), calls⟩
  | refused (other : l.head ≠ parent) (calls : History) :
      Decided l parent ⟨.ok (l.childAnswer parent), .ok (.conflict l.head), calls⟩

theorem World.Keeps.push (keeps : w.Keeps stamp h) {engine : Engine}
    (creates : engine.createClients = true) (client parent : String) (segment : Bytes)
    (fresh : FreshIds (h ++ (w.push engine client parent segment).calls)) :
    Decided (ledger client h) parent (w.push engine client parent segment) := by
  have sound := keeps.store.sound client
  have asked := getChildVersion_settles engine keeps.store.lawful client parent
  unfold World.push World.perform at fresh ⊢
  dsimp only at fresh ⊢
  rw [← List.append_assoc] at fresh
  -- Both conversations are made opaque here, for unification would run them.
  generalize (engine.getChildVersion client parent).run = ask at asked fresh ⊢
  have before : FreshIds (h ++ w.calls ask) := fresh.of_isPrefix (List.prefix_append ..)
  obtain ⟨told, kept⟩ := keeps.leads_of_fresh asked before
  have added := addVersion_settles engine kept.store.lawful client parent segment
  generalize (engine.addVersion client parent segment).run = add at added fresh ⊢
  obtain ⟨took, -⟩ := kept.leads_of_fresh added fresh
  generalize ((ask.run World.respond).run w).1 = first at told ⊢
  generalize ((add.run World.respond).run ((ask.run World.respond).run w).2).1 = second at took ⊢
  have admitted {h : History} {command : Command} {failure : Failure} {h' : History}
      (refused : Refused engine h command failure h') : False := by
    cases refused.2.1.symm.trans creates
  cases first with
  | error failure => exact (admitted told).elim
  | ok first =>
    cases second with
    | error failure => exact (admitted took).elim
    | ok second =>
      obtain ⟨quiet, rfl⟩ := told
      have same := quiet.head client
      unfold Outcome at took
      dsimp only at took
      generalize h ++ w.calls ask ++ _ = final at took
      cases took with
      | added _ head time version urgency record =>
        have up := (sound.childAnswer_eq_upToDate parent).mpr (.inl (same.symm.trans head))
        rw [up]
        exact .taken (same.symm.trans head) version urgency _
      | conflict _ other =>
        rw [same] at other ⊢
        exact .refused other _

theorem Decided.answers {l : Ledger} {parent : String} {push : Push}
    (decided : Decided l parent push) (sound : l.Sound) :
    ∃ told taken, push.told = .ok told ∧ push.taken = .ok taken ∧
      (Truthful told taken ↔ (l.versions = [] → parent = nilId)) ∧
      (l.versions = [] → parent ≠ nilId → told = .upToDate ∧ taken = .conflict nilId) := by
  have empty := sound.head_eq_nil_iff
  cases decided with
  | taken head version urgency calls =>
    refine ⟨_, _, rfl, rfl, ?_, fun none other => ?_⟩
    · simp only [truthful_iff, true_iff]
      exact ⟨fun _ none => head.symm.trans (empty.mpr none), fun _ => ⟨version, urgency, rfl⟩⟩
    · exact absurd (head.symm.trans (empty.mpr none)) other
  | refused other calls =>
    have up := sound.childAnswer_eq_upToDate parent
    refine ⟨_, _, rfl, rfl, ?_, fun none _ => ?_⟩
    · rw [truthful_iff, up]
      constructor
      · intro agree none
        obtain ⟨version, urgency, taken⟩ := agree.mp (.inr (empty.mpr none))
        cases taken
      · intro law
        have filled : l.head ≠ nilId := fun nil =>
          other (nil.trans (law (empty.mp nil)).symm)
        simp [other, filled]
    · have nil := empty.mpr none
      exact ⟨up.mpr (.inr nil), by rw [nil]⟩

theorem told_as_taken {start : Backing} (new : start.IsNew) (orders : List Order)
    {turns : List Turn} (drawn : (Underway.run start orders turns).transcript.FreshDraws)
    {world : World} (reached : world.backing = (Underway.run start orders turns).store)
    (calm : world.misbehaviours = []) {engine : Engine} (creates : engine.createClients = true)
    (client parent : String) (segment : Bytes)
    (fresh : FreshIds ((Underway.run start orders turns).transcript.history ++
      (world.push engine client parent segment).calls)) :
    ∃ told taken, (world.push engine client parent segment).told = .ok told ∧
      (world.push engine client parent segment).taken = .ok taken ∧
      (Truthful told taken ↔
        ((Underway.run start orders turns).transcript.commits client = [] → parent = nilId)) ∧
      ((Underway.run start orders turns).transcript.commits client = [] → parent ≠ nilId →
        told = .upToDate ∧ taken = .conflict nilId) := by
  obtain ⟨stamp, keeps⟩ := new.keeps
  have holds := Underway.Holds.run keeps orders drawn
  have there : world.Keeps stamp (Underway.run start orders turns).transcript.history := by
    refine ⟨calm, ?_⟩
    rw [reached]
    exact holds.keeps
  have decided := there.push creates client parent segment fresh
  have answers := decided.answers (holds.keeps.sound client)
  rw [← Transcript.map_commits, List.map_eq_nil_iff] at answers
  exact answers

/-- Two versions, of which the snapshot of the second prunes the first. -/
def prunedOrders : List Order :=
  [⟨{}, .addVersion "c" nilId [1]⟩, ⟨{}, .addVersion "c" "v1" [2]⟩,
    ⟨{ retention := .pruneOnSnapshot }, .addSnapshot "c" "v2" [8]⟩]

def prunedTurns : List Turn :=
  List.replicate 7 ⟨0, 1, "v1"⟩ ++ List.replicate 5 ⟨1, 2, "v2"⟩ ++ List.replicate 3 ⟨2, 3, ""⟩

def prunedWorld : World where
  backing := (Underway.run (.memory .empty) prunedOrders prunedTurns).store
  ids := ["v3"]

theorem told_as_taken_pruned :
    ∃ told taken, (prunedWorld.push {} "c" "v1" [3]).told = .ok told ∧
      (prunedWorld.push {} "c" "v1" [3]).taken = .ok taken ∧
      (Truthful told taken ↔ ((Underway.run (.memory .empty) prunedOrders
        prunedTurns).transcript.commits "c" = [] → "v1" = nilId)) ∧
      ((Underway.run (.memory .empty) prunedOrders prunedTurns).transcript.commits "c" = [] →
        "v1" ≠ nilId → told = .upToDate ∧ taken = .conflict nilId) := by
  have drawn : (Underway.run (.memory .empty) prunedOrders prunedTurns).transcript.FreshDraws := by
    decide +kernel
  have reached : prunedWorld.backing =
      (Underway.run (.memory .empty) prunedOrders prunedTurns).store := by
    simp only [prunedWorld]
  have fresh : FreshIds ((Underway.run (.memory .empty) prunedOrders
      prunedTurns).transcript.history ++ (prunedWorld.push {} "c" "v1" [3]).calls) := by
    decide +kernel
  exact told_as_taken .memory prunedOrders drawn reached rfl rfl "c" "v1" [3] fresh

/-- On the chain that is still empty a replica is told that there is nothing newer than its version,
and may not push behind it. -/
theorem told_upToDate_refused :
    (Backing.memory .empty).IsNew ∧
      FreshIds (World.push {} "c" "v1" [1] { backing := .memory .empty }).calls ∧
      (World.push {} "c" "v1" [1] { backing := .memory .empty }).told = .ok .upToDate ∧
      (World.push {} "c" "v1" [1] { backing := .memory .empty }).taken = .ok (.conflict nilId) ∧
      ¬ Truthful .upToDate (.conflict nilId) := by
  refine ⟨.memory, by decide +kernel, by decide +kernel, by decide +kernel, ?_⟩
  rw [truthful_iff]
  simp

end Scenario

end TaskSync
