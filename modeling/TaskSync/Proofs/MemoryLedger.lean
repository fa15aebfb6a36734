import TaskSync.Proofs.Chains
import TaskSync.Proofs.Ledger

/-!
# The store in memory keeps ledgers

For every client the chain in memory holds what the ledger of its calls says,
and every call is answered by the ledger.
-/

namespace TaskSync.Store

/-- What is kept in memory for a client agrees with its ledger. -/
structure Chain.Keeps (chain : Chain) (l : Ledger) (client : String) : Prop where
  client : chain.client = l.record some client
  snapshot : chain.snapshot = l.taken.map (·.data)
  versions : ∀ id, chain.versions.get? id = l.kept.find? (·.id = id)
  children : ∀ parent, chain.children.get? parent = (l.child? parent).map (·.id)

/-- There is a chain for a client once it was created. -/
def Ledger.KeptBy (l : Ledger) (client : String) : Option Chain → Prop
  | none => l.created = false
  | some chain => l.created = true ∧ chain.Keeps l client

def Memory.Keeps (m : Memory) (h : History) : Prop :=
  ∀ client, (ledger client h).KeptBy client (m.get? client)

namespace Chain.Keeps

variable {chain : Chain} {l : Ledger} {client : String}

theorem holds (keeps : chain.Keeps l client) :
    chain.Holds (l.record some client) (l.taken.map (·.data)) l.kept :=
  ⟨keeps.client, keeps.snapshot, keeps.versions, keeps.children⟩

theorem of_holds (holds : chain.Holds (l.record some client) (l.taken.map (·.data)) l.kept) :
    chain.Keeps l client :=
  ⟨holds.client, holds.snapshot, holds.versions, holds.children⟩

theorem head (keeps : chain.Keeps l client) : chain.client.head = l.head := by
  rw [keeps.client]
  rfl

theorem child? (keeps : chain.Keeps l client) (sound : l.Sound) (parent : String) :
    chain.child? parent = l.child? parent :=
  keeps.holds.child? sound.kept_distinct parent

theorem snapshot? (keeps : chain.Keeps l client) :
    chain.snapshot? = l.taken.map fun taken => ⟨taken.version, taken.data⟩ := by
  unfold Chain.snapshot?
  rw [keeps.snapshot, keeps.client]
  cases ht : l.taken <;> simp [Ledger.record, ht]

theorem fresh (client : String) : (Chain.fresh client).Keeps { created := true } client :=
  of_holds (Chain.Holds.fresh client)

theorem append (keeps : chain.Keeps l client) (sound : l.Sound) {v : Version}
    (hp : v.parent = l.head) (hf : v.id ∉ l.ids) :
    (chain.append v).Keeps (l.append v) client := by
  apply of_holds
  rw [Ledger.record_append sound.count_le, Ledger.kept_append sound]
  refine keeps.holds.append ?_ ?_
  · intro w hw
    rw [hp]
    exact sound.parent_ne_head (Ledger.kept_subset hw)
  · intro w hw hid
    exact hf (hid ▸ Ledger.id_mem_ids (Ledger.kept_subset hw))

theorem take (keeps : chain.Keeps l client) (data : Bytes) (time : Number) (version : String) :
    (chain.takeSnapshot version data time).Keeps (l.take version data time false) client := by
  apply of_holds
  rw [Ledger.record_take]
  exact keeps.holds.take version data time

theorem prune (keeps : chain.Keeps l client) (sound : l.Sound) (data : Bytes) (time : Number) :
    ((chain.takeSnapshot l.head data time).keepOnly l.head).Keeps
      (l.take l.head data time true) client := by
  apply of_holds
  rw [Ledger.record_take, Ledger.kept_take_prune, ← Ledger.filter_head sound]
  exact (keeps.holds.take l.head data time).keepOnly sound.kept_distinct l.head

end Chain.Keeps

namespace Memory

variable {m : Memory} {h : History}

theorem keeps_empty : Memory.empty.Keeps [] := fun _ => rfl

theorem Keeps.unchanged (keeps : m.Keeps h) (e : Answered)
    (same : (ledger e.call.client h).note e = ledger e.call.client h) : m.Keeps (h ++ [e]) := by
  intro client
  rw [ledger_snoc]
  split
  · next hc =>
    rw [← hc, same]
    exact keeps _
  · exact keeps client

theorem Keeps.put (keeps : m.Keeps h) (e : Answered) {chain : Chain}
    (created : ((ledger e.call.client h).note e).created = true)
    (kept : chain.Keeps ((ledger e.call.client h).note e) e.call.client) :
    (m.put e.call.client chain).Keeps (h ++ [e]) := by
  intro client
  rw [ledger_snoc, get?_put]
  by_cases hc : e.call.client = client
  · subst hc
    simpa [Ledger.KeptBy] using ⟨created, kept⟩
  · simpa [hc, Ne.symm hc] using keeps client

theorem Keeps.get? (keeps : m.Keeps h) (client : String) :
    (m.get? client = none ∧ (ledger client h).created = false) ∨
      ∃ chain, m.get? client = some chain ∧ (ledger client h).created = true ∧
        chain.Keeps (ledger client h) client := by
  have hkept := keeps client
  cases hm : m.get? client with
  | none =>
    rw [hm] at hkept
    exact .inl ⟨rfl, hkept⟩
  | some chain =>
    rw [hm] at hkept
    exact .inr ⟨chain, rfl, hkept⟩

/-! ## One lemma for each call -/

/-- The store answers a call by the ledger, and has noted it then. -/
def Answers (m : Memory) (h : History) (time : Number) (c : Call) : Prop :=
  (m.call time c).1 = (ledger c.client h).answer some time c ∧
    (m.call time c).2.Keeps (h ++ [⟨time, c, (ledger c.client h).answer some time c⟩])

theorem Answers.intro {time : Number} {c : Call} (reply : Except Failure c.Reply) {after : Memory}
    (call_eq : m.call time c = (reply, after))
    (answer_eq : (ledger c.client h).answer some time c = reply)
    (keeps : after.Keeps (h ++ [⟨time, c, reply⟩])) : m.Answers h time c := by
  unfold Answers
  rw [call_eq, answer_eq]
  exact ⟨rfl, keeps⟩

variable (keeps : m.Keeps h) (sound : ∀ client, (ledger client h).Sound) (time : Number)
include keeps

theorem Keeps.getClient (client : String) : m.Answers h time (.getClient client) := by
  refine .intro _ rfl ?_ (keeps.unchanged _ rfl)
  rcases keeps.get? client with ⟨hm, hc⟩ | ⟨chain, hm, hc, kept⟩
  · simp [Call.client, Ledger.answer, hm, hc]
  · simp [Call.client, Ledger.answer, hm, hc, kept.client]

include sound

theorem Keeps.createClient (client : String) : m.Answers h time (.createClient client) := by
  rcases keeps.get? client with ⟨hm, hc⟩ | ⟨chain, hm, hc, -⟩
  · have kept : (Chain.fresh client).Keeps { ledger client h with created := true } client := by
      rw [(sound client).uncreated hc]
      exact Chain.Keeps.fresh client
    exact .intro (.ok (.fresh client)) (by simp only [Memory.call, Memory.createClient, hm]; rfl)
      (by simp [Call.client, Ledger.answer, hc])
      (keeps.put ⟨time, .createClient client, .ok (.fresh client)⟩ rfl kept)
  · exact .intro (.error (.clientAlreadyExists client))
      (by simp only [Memory.call, Memory.createClient, hm])
      (by simp [Call.client, Ledger.answer, hc]) (keeps.unchanged _ rfl)

theorem Keeps.getVersionByParent (client parent : String) :
    m.Answers h time (.getVersionByParent client parent) := by
  refine .intro _ rfl ?_ (keeps.unchanged _ rfl)
  simp only [Call.client, Ledger.answer]
  rcases keeps.get? client with ⟨hm, hc⟩ | ⟨chain, hm, -, kept⟩
  · rw [hm, (sound client).uncreated hc]
    rfl
  · rw [hm, Option.bind_some, kept.child? (sound client)]

theorem Keeps.addVersion (client parent : String) {version : String}
    (fresh : version ∉ (ledger client h).ids) (segment : Bytes) :
    m.Answers h time (.addVersion client parent version segment) := by
  rcases keeps.get? client with ⟨hm, hc⟩ | ⟨chain, hm, hc, kept⟩
  · exact .intro (.error (.noSuchClient client)) (by simp only [Memory.call, Memory.addVersion, hm])
      (by simp [Call.client, Ledger.answer, hc]) (keeps.unchanged _ rfl)
  · by_cases hp : (ledger client h).head = parent
    · have appended := kept.append (sound client) (v := ⟨version, parent, segment⟩) hp.symm fresh
      exact .intro (.ok (.committed (chain.append ⟨version, parent, segment⟩).client))
        (by simp only [Memory.call, Memory.addVersion, hm, kept.head, if_pos hp]; rfl)
        (by simp [Call.client, Ledger.answer, hc, hp, appended.client])
        (keeps.put ⟨time, .addVersion client parent version segment, .ok (.committed _)⟩ hc appended)
    · exact .intro (.ok (.conflict (ledger client h).head))
        (by simp only [Memory.call, Memory.addVersion, hm, kept.head, if_neg hp])
        (by simp [Call.client, Ledger.answer, hc, hp]) (keeps.unchanged _ rfl)

theorem Keeps.addSnapshot (client version : String) (data : Bytes) (prune : Bool) :
    m.Answers h time (.addSnapshot client version data prune) := by
  rcases keeps.get? client with ⟨hm, hc⟩ | ⟨chain, hm, hc, kept⟩
  · exact .intro (.error (.noSuchClient client)) (by simp only [Memory.call, Memory.addSnapshot, hm])
      (by simp [Call.client, Ledger.answer, hc]) (keeps.unchanged _ rfl)
  · by_cases hv : (ledger client h).head = version
    · subst hv
      obtain ⟨after, hafter⟩ : ∃ after, after = if prune then
          (chain.takeSnapshot (ledger client h).head data time).keepOnly (ledger client h).head
          else chain.takeSnapshot (ledger client h).head data time := ⟨_, rfl⟩
      have taken : after.Keeps ((ledger client h).take (ledger client h).head data time prune)
          client := by
        rw [hafter]
        cases prune with
        | false => exact kept.take data time _
        | true => exact kept.prune (sound client) data time
      exact .intro (.ok (.accepted after.client))
        (by simp only [Memory.call, Memory.addSnapshot, hm, kept.head, if_true, hafter]; rfl)
        (by simp [Call.client, Ledger.answer, hc, taken.client])
        (keeps.put ⟨time, .addSnapshot client _ data prune, .ok (.accepted _)⟩ hc taken)
    · exact .intro (.ok (.mismatch (ledger client h).head))
        (by simp only [Memory.call, Memory.addSnapshot, hm, kept.head, if_neg hv])
        (by simp [Call.client, Ledger.answer, hc, hv]) (keeps.unchanged _ rfl)

theorem Keeps.getSnapshot (client : String) : m.Answers h time (.getSnapshot client) := by
  refine .intro _ rfl ?_ (keeps.unchanged _ rfl)
  simp only [Call.client, Ledger.answer]
  rcases keeps.get? client with ⟨hm, hc⟩ | ⟨chain, hm, -, kept⟩
  · rw [hm, (sound client).uncreated hc]
    rfl
  · rw [hm, Option.bind_some, kept.snapshot?]

theorem Keeps.answers {c : Call} (fresh : c.IsFresh (ledger c.client h)) :
    m.Answers h time c := by
  cases c with
  | getClient client => exact keeps.getClient time client
  | createClient client => exact keeps.createClient sound time client
  | getVersionByParent client parent => exact keeps.getVersionByParent sound time client parent
  | addVersion client parent version segment =>
    exact keeps.addVersion sound time client parent fresh segment
  | addSnapshot client version data prune =>
    exact keeps.addSnapshot sound time client version data prune
  | getSnapshot client => exact keeps.getSnapshot sound time client

end Memory

end TaskSync.Store
