import TaskSync.Proofs.Contract

/-!
# The chain law

What a store answers about one client is the chain of the versions committed
for it: the head is the last one, every version kept is found under the one
before it, and nothing else is found. The versions kept are those from the last
snapshot that pruned on.
-/

namespace TaskSync.Scenario

open Store

namespace Backing

/-- Asking for what follows a version, then for what follows that, and so on, visits a list of
versions until there is no more. -/
inductive Walk (time : Number) (client : String) : Backing → String → List Version → Prop where
  | stop {b after : Backing} {parent : String}
      (call : b.call 0 time (.getVersionByParent client parent) = (.ok none, after)) :
      Walk time client b parent []
  | next {b after : Backing} {parent : String} {version : Version} {rest : List Version}
      (call : b.call 0 time (.getVersionByParent client parent) = (.ok (some version), after))
      (walk : Walk time client after version.id rest) :
      Walk time client b parent (version :: rest)

/-- The answers about a client are those of the chain of its versions, whose ids come after the
nil id in `l.ids`. -/
structure FollowsChain (b : Backing) (client : String) (l : Ledger) : Prop where
  /-- The head is the last version. -/
  head : ∃ found : Option Client,
    (∀ time, (b.call 0 time (.getClient client)).1 = .ok found) ∧
      found.isSome = l.created ∧ (found = none → l.versions = []) ∧
      ∀ record, found = some record → l.ids[l.versions.length]? = some record.head
  /-- A version that is kept is found under the one before it. -/
  kept : ∀ i, max l.pruned 1 ≤ i → i ≤ l.versions.length → ∃ version : Version,
    l.versions[i - 1]? = some version ∧ l.ids[i]? = some version.id ∧
      l.ids[i - 1]? = some version.parent ∧
      ∀ time, (b.call 0 time (.getVersionByParent client version.parent)).1 = .ok (some version)
  /-- Under any other parent there is nothing. -/
  other : ∀ parent, (∀ i, max l.pruned 1 ≤ i → i ≤ l.versions.length →
    l.ids[i - 1]? ≠ some parent) →
      ∀ time, (b.call 0 time (.getVersionByParent client parent)).1 = .ok none
  /-- Without pruning all versions are visited from the nil id on, each once. -/
  walk : l.pruned = 0 → (∀ time, Walk time client b nilId l.versions) ∧ l.ids.Nodup

variable {b : Backing} {stamp : Number → Option Number} {h : History}

theorem Keeps.child (keeps : b.Keeps stamp h) (client parent : String) (time : Number) :
    ∃ after later, b.call 0 time (.getVersionByParent client parent) =
        (.ok ((ledger client h).child? parent), after) ∧
      after.Keeps stamp later ∧ ∀ other, ledger other later = ledger other h := by
  obtain ⟨reply, kept⟩ := keeps.call (c := .getVersionByParent client parent) trivial 0 time
  refine ⟨_, _, Prod.ext reply rfl, kept, fun other => ?_⟩
  rw [ledger_snoc]
  split
  · next hc => rw [← hc]; rfl
  · rfl

theorem Keeps.child_reply (keeps : b.Keeps stamp h) (client parent : String) (time : Number) :
    (b.call 0 time (.getVersionByParent client parent)).1 =
      .ok ((ledger client h).child? parent) := by
  obtain ⟨after, later, call, -⟩ := keeps.child client parent time
  rw [call]

theorem Keeps.walk (keeps : b.Keeps stamp h) (time : Number) {client : String} {i : Nat}
    {id : String} (hi : (ledger client h).ids[i]? = some id)
    (hk : (ledger client h).pruned ≤ i + 1) :
    Walk time client b id ((ledger client h).versions.drop i) := by
  induction hv : (ledger client h).versions.drop i generalizing b h i id with
  | nil =>
    obtain ⟨after, later, call, -⟩ := keeps.child client id time
    rw [(keeps.sound client).child?_at hi, if_pos hk,
      List.getElem?_eq_none (List.drop_eq_nil_iff.mp hv)] at call
    exact .stop call
  | cons v rest ih =>
    have hget : (ledger client h).versions[i]? = some v := by
      rw [← List.head?_drop, hv, List.head?_cons]
    obtain ⟨after, later, call, kept, same⟩ := keeps.child client id time
    rw [(keeps.sound client).child?_at hi, if_pos hk, hget] at call
    have hnext : (ledger client later).ids[i + 1]? = some v.id := by
      rw [same, Ledger.ids_succ, hget, Option.map_some]
    have hrest : (ledger client later).versions.drop (i + 1) = rest := by
      rw [same, ← List.drop_drop, hv, List.drop_one, List.tail_cons]
    exact .next call (ih kept hnext (by rw [same]; omega) hrest)

theorem Keeps.followsChain (keeps : b.Keeps stamp h) (client : String) :
    b.FollowsChain client (ledger client h) := by
  have sound := keeps.sound client
  constructor
  case head =>
    refine ⟨_, fun time => (keeps.call (c := .getClient client) trivial 0 time).1, ?_⟩
    cases hc : (ledger client h).created with
    | false => simp [Call.client, sound.uncreated hc]
    | true =>
      simp only [Call.client, hc, if_true, Option.isSome_some, reduceCtorEq, false_implies,
        Option.some.injEq, true_and, forall_eq']
      exact (ledger client h).ids_length
  case kept =>
    intro i hlow hhigh
    obtain ⟨v, hv⟩ : ∃ v, (ledger client h).versions[i - 1]? = some v :=
      ⟨_, List.getElem?_eq_getElem (by omega)⟩
    have hparent := sound.linked (i - 1) v hv
    refine ⟨v, hv, ?_, hparent, fun time => ?_⟩
    · have hid := (ledger client h).ids_succ (i - 1)
      rwa [Nat.sub_add_cancel (by omega), hv] at hid
    · rw [keeps.child_reply, sound.child?_at hparent, if_pos (by omega), hv]
  case other =>
    intro parent hparent time
    rw [keeps.child_reply]
    congr 1
    rw [Option.eq_none_iff_forall_ne_some]
    intro v hv
    obtain ⟨hk, rfl⟩ := sound.child?_eq_some_iff.mp hv
    obtain ⟨i, hle, hi⟩ := Ledger.mem_kept_iff.mp hk
    have hlt := (List.getElem?_eq_some_iff.mp hi).1
    exact hparent (i + 1) (by omega) (by omega) (sound.linked i v hi)
  case walk =>
    intro hp
    exact ⟨fun time => keeps.walk time (i := 0) rfl (by omega), sound.distinct⟩

end Backing

/-- **Chain law.** After every part of a run of calls on a new store, in which every version added
has an id of its own, the answers about every client follow the chain of its versions. -/
theorem chain_law {start : Backing} (new : start.IsNew) {calls : List (Number × Call)}
    (fresh : FreshIds (Recorded.run start calls).history) {prior : List (Number × Call)}
    (hprior : prior <+: calls) (client : String) :
    (Recorded.run start prior).store.FollowsChain client
      (ledger client (Recorded.run start prior).history) := by
  obtain ⟨stamp, hkeeps⟩ := Recorded.keeps new
  have freshPrior := fresh.of_isPrefix (Recorded.history_grows start hprior)
  exact (hkeeps prior freshPrior).followsChain client

/-- Two versions, a snapshot that prunes the first, and a third version. -/
def prunedRun : List (Number × Call) :=
  [(0, .createClient "c"), (0, .addVersion "c" nilId "v1" [1]), (1, .addVersion "c" "v1" "v2" []),
    (2, .addSnapshot "c" "v2" [7] true), (3, .addVersion "c" "v2" "v3" [3])]

theorem chain_law_pruned :
    (Backing.embedded {}).IsNew ∧ FreshIds (Recorded.run (.embedded {}) prunedRun).history ∧
      prunedRun.take 4 <+: prunedRun ∧
      (Recorded.run (.embedded {}) (prunedRun.take 4)).store.FollowsChain "c"
        (ledger "c" (Recorded.run (.embedded {}) (prunedRun.take 4)).history) := by
  have new : (Backing.embedded {}).IsNew := .embedded false
  have fresh : FreshIds (Recorded.run (.embedded {}) prunedRun).history := by decide +kernel
  exact ⟨new, fresh, List.take_prefix .., chain_law new fresh (List.take_prefix ..) "c"⟩

end TaskSync.Scenario
