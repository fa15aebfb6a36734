import Mathlib.Data.List.Induction
import Mathlib.Data.List.Nodup
import TaskSync.Failure
import TaskSync.Store.Call

/-!
# Ledgers

What the calls that a store has answered add up to, client by client, and what
a store that keeps such a ledger answers next. Every backend is compared with
this one account of the calls.
-/

namespace TaskSync.Store

/-- A call with its answer, and the time at which it was made. -/
structure Answered where
  time : Number
  call : Call
  reply : Except Failure call.Reply

/-- The calls that a store has answered, in order. -/
abbrev History := List Answered

structure Taken where
  version : String
  data : Bytes
  time : Number
  /-- How many versions the client had by then. -/
  count : Nat

/-- What the answers to the calls about one client add up to. -/
structure Ledger where
  created : Bool := false
  /-- The versions committed, in order. -/
  versions : List Version := []
  /-- The last snapshot accepted. -/
  taken : Option Taken := none
  /-- How many versions there were when a snapshot last pruned. -/
  pruned : Nat := 0

namespace Ledger

def append (l : Ledger) (version : Version) : Ledger :=
  { l with versions := l.versions ++ [version] }

def take (l : Ledger) (version : String) (data : Bytes) (time : Number) (prune : Bool) : Ledger :=
  { l with
    taken := some ⟨version, data, time, l.versions.length⟩
    pruned := if prune then l.versions.length else l.pruned }

/-- The ledger after one more call about the client was answered. -/
def note (l : Ledger) : Answered → Ledger
  | ⟨_, .createClient _, .ok _⟩ => { l with created := true }
  | ⟨_, .addVersion _ parent version segment, .ok (.committed _)⟩ =>
    l.append ⟨version, parent, segment⟩
  | ⟨time, .addSnapshot _ version data prune, .ok (.accepted _)⟩ => l.take version data time prune
  | _ => l

/-- The nil id and the ids of the versions, in order. -/
def ids (l : Ledger) : List String := nilId :: l.versions.map (·.id)

def head (l : Ledger) : String := (l.versions.getLast?.map (·.id)).getD nilId

def kept (l : Ledger) : List Version := l.versions.drop (l.pruned - 1)

def child? (l : Ledger) (parent : String) : Option Version := l.kept.find? (·.parent = parent)

/-- The client's record. A backend writes times down in a way of its own. -/
def record (l : Ledger) (stamp : Number → Option Number) (client : String) : Client where
  id := client
  head := l.head
  snapshotVersion := l.taken.map (·.version)
  sinceSnapshot := l.versions.length - (l.taken.map (·.count)).getD 0
  snapshotTime := l.taken.bind fun taken => stamp taken.time

/-- What a store that keeps the ledger answers to a call about the client. -/
def answer (l : Ledger) (stamp : Number → Option Number) (time : Number) :
    (call : Call) → Except Failure call.Reply
  | .getClient client => .ok (if l.created then some (l.record stamp client) else none)
  | .createClient client =>
    if l.created then .error (.clientAlreadyExists client) else .ok (.fresh client)
  | .getVersionByParent _ parent => .ok (l.child? parent)
  | .addVersion client parent version segment =>
    if l.created then
      if l.head = parent then
        .ok (.committed ((l.append ⟨version, parent, segment⟩).record stamp client))
      else .ok (.conflict l.head)
    else .error (.noSuchClient client)
  | .addSnapshot client version data prune =>
    if l.created then
      if l.head = version then
        .ok (.accepted ((l.take version data time prune).record stamp client))
      else .ok (.mismatch l.head)
    else .error (.noSuchClient client)
  | .getSnapshot _ => .ok (l.taken.map fun taken => ⟨taken.version, taken.data⟩)

end Ledger

def ledger (client : String) (h : History) : Ledger :=
  (h.filter (·.call.client = client)).foldl Ledger.note {}

@[simp] theorem ledger_nil (client : String) : ledger client [] = {} := rfl

theorem ledger_snoc (client : String) (h : History) (e : Answered) :
    ledger client (h ++ [e]) =
      if e.call.client = client then (ledger client h).note e else ledger client h := by
  unfold ledger
  rw [List.filter_append, List.foldl_append]
  by_cases hc : e.call.client = client <;> simp [hc]

theorem ledger_snoc_own (h : History) {e : Answered} {client : String}
    (own : e.call.client = client) : ledger client (h ++ [e]) = (ledger client h).note e := by
  rw [ledger_snoc, if_pos own]

theorem ledger_created_snoc (h : History) (time : Number) (client : String) (record : Client) :
    (ledger client (h ++ [⟨time, .createClient client, .ok record⟩])).created = true := by
  rw [ledger_snoc]
  exact congrArg Ledger.created (if_pos rfl)

theorem snoc_eq_split {α : Type} {list earlier later : List α} {last entry : α}
    (h : list ++ [last] = earlier ++ entry :: later) :
    (list = earlier ∧ last = entry) ∨ ∃ rest, list = earlier ++ entry :: rest := by
  rcases later.eq_nil_or_concat' with rfl | ⟨rest, final, rfl⟩
  · obtain ⟨ht, hentry⟩ := List.append_inj' h rfl
    exact .inl ⟨ht, List.singleton_inj.mp hentry⟩
  · rw [← List.cons_append, ← List.append_assoc] at h
    exact .inr ⟨rest, (List.append_inj' h rfl).1⟩

/-- Whether a version added has an id of its own: neither the nil id nor that of an earlier one. -/
def Call.IsFresh (l : Ledger) : Call → Prop
  | .addVersion _ _ version _ => version ∉ l.ids
  | _ => True

/-- Whether every version added in a history has an id of its own. -/
def FreshIds (h : History) : Prop :=
  ∀ earlier e later, h = earlier ++ e :: later → e.call.IsFresh (ledger e.call.client earlier)

instance (l : Ledger) (c : Call) : Decidable (c.IsFresh l) :=
  match c with
  | .addVersion .. => inferInstanceAs (Decidable (¬ _))
  | .getClient _ | .createClient _ | .getVersionByParent .. | .addSnapshot .. | .getSnapshot _ =>
    inferInstanceAs (Decidable True)

theorem freshIds_iff (h : History) :
    FreshIds h ↔ ∀ i : Fin h.length,
      h[i].call.IsFresh (ledger h[i].call.client (h.take i)) := by
  constructor
  · intro fresh i
    refine fresh (h.take i) h[i] (h.drop (i + 1)) ?_
    rw [Fin.getElem_fin, ← List.drop_eq_getElem_cons i.isLt, List.take_append_drop]
  · rintro fresh earlier e later rfl
    simpa using fresh ⟨earlier.length, by simp⟩

instance (h : History) : Decidable (FreshIds h) := decidable_of_iff' _ (freshIds_iff h)

theorem FreshIds.of_isPrefix {earlier h : History} (fresh : FreshIds h) (hp : earlier <+: h) :
    FreshIds earlier := by
  obtain ⟨rest, rfl⟩ := hp
  rintro before e later rfl
  exact fresh before e (later ++ rest) (by simp)

/-- The histories of stores that keep the ledgers, as long as every version has an id of its own. -/
inductive Lawful (stamp : Number → Option Number) : History → Prop where
  | nil : Lawful stamp []
  | snoc {h : History} (time : Number) (call : Call) (lawful : Lawful stamp h)
      (fresh : call.IsFresh (ledger call.client h)) :
      Lawful stamp (h ++ [⟨time, call, (ledger call.client h).answer stamp time call⟩])

namespace Ledger

variable {l : Ledger}

/-! ## Ids -/

@[simp] theorem head_empty : ({} : Ledger).head = nilId := rfl

@[simp] theorem head_append (l : Ledger) (v : Version) : (l.append v).head = v.id := by
  simp [head, append]

@[simp] theorem head_take (l : Ledger) (version : String) (data : Bytes) (time : Number)
    (prune : Bool) : (l.take version data time prune).head = l.head := rfl

@[simp] theorem ids_append (l : Ledger) (v : Version) : (l.append v).ids = l.ids ++ [v.id] := by
  simp [ids, append]

@[simp] theorem ids_take (l : Ledger) (version : String) (data : Bytes) (time : Number)
    (prune : Bool) : (l.take version data time prune).ids = l.ids := rfl

@[simp] theorem length_ids (l : Ledger) : l.ids.length = l.versions.length + 1 := by simp [ids]

theorem ids_succ (l : Ledger) (i : Nat) : l.ids[i + 1]? = l.versions[i]?.map (·.id) := by
  simp [ids]

theorem ids_length (l : Ledger) : l.ids[l.versions.length]? = some l.head := by
  rcases l.versions.eq_nil_or_concat' with hv | ⟨vs, v, hv⟩
  · simp [ids, head, hv]
  · simp [ids, head, hv]

theorem nil_mem_ids (l : Ledger) : nilId ∈ l.ids := by simp [ids]

theorem id_mem_ids {v : Version} (h : v ∈ l.versions) : v.id ∈ l.ids :=
  List.mem_cons_of_mem _ (List.mem_map_of_mem h)

theorem kept_subset {v : Version} (h : v ∈ l.kept) : v ∈ l.versions := List.mem_of_mem_drop h

theorem mem_kept_iff {v : Version} :
    v ∈ l.kept ↔ ∃ i, l.pruned ≤ i + 1 ∧ l.versions[i]? = some v := by
  simp only [kept, List.mem_iff_getElem?, List.getElem?_drop]
  constructor
  · rintro ⟨j, hj⟩
    exact ⟨l.pruned - 1 + j, by omega, hj⟩
  · rintro ⟨i, hi, hv⟩
    refine ⟨i - (l.pruned - 1), ?_⟩
    rwa [Nat.add_sub_of_le (by omega)]

/-! ## Sound ledgers -/

/-- The versions are one chain from the nil id, and the snapshot is of one of them. -/
structure Sound (l : Ledger) : Prop where
  linked : ∀ (i : Nat) (v : Version), l.versions[i]? = some v → l.ids[i]? = some v.parent
  distinct : l.ids.Nodup
  pruned_le : l.pruned ≤ l.versions.length
  taken : ∀ t ∈ l.taken, l.pruned ≤ t.count ∧ l.ids[t.count]? = some t.version
  untaken : l.taken = none → l.pruned = 0
  uncreated : l.created = false → l = {}

namespace Sound

theorem empty : Sound {} := by
  constructor <;> simp [ids]

theorem index_unique (h : l.Sound) {i j : Nat} {id : String} (hi : l.ids[i]? = some id)
    (hj : l.ids[j]? = some id) : i = j := by
  have hlt : i < l.ids.length := (List.getElem?_eq_some_iff.mp hi).1
  exact (List.getElem?_inj hlt h.distinct).mp (hi.trans hj.symm)

theorem parent_injective (h : l.Sound) {v w : Version} (hv : v ∈ l.versions)
    (hw : w ∈ l.versions) (hp : v.parent = w.parent) : v = w := by
  obtain ⟨i, hi⟩ := List.mem_iff_getElem?.mp hv
  obtain ⟨j, hj⟩ := List.mem_iff_getElem?.mp hw
  obtain rfl : i = j := h.index_unique (h.linked i v hi) (hp ▸ h.linked j w hj)
  exact Option.some.inj (hi.symm.trans hj)

theorem parent_ne_head (h : l.Sound) {v : Version} (hv : v ∈ l.versions) :
    v.parent ≠ l.head := by
  obtain ⟨i, hi⟩ := List.mem_iff_getElem?.mp hv
  intro hp
  have hlt : i < l.versions.length := (List.getElem?_eq_some_iff.mp hi).1
  have := h.index_unique (hp ▸ h.linked i v hi) l.ids_length
  omega

theorem head_eq_nil_iff (h : l.Sound) : l.head = nilId ↔ l.versions = [] := by
  constructor
  · intro hn
    have h0 : l.ids[0]? = some nilId := rfl
    have := h.index_unique h0 (hn ▸ l.ids_length)
    exact List.eq_nil_of_length_eq_zero this.symm
  · intro hv
    simp [head, hv]

theorem child?_eq_some_iff (h : l.Sound) {parent : String} {v : Version} :
    l.child? parent = some v ↔ v ∈ l.kept ∧ v.parent = parent := by
  constructor
  · intro hc
    exact ⟨List.mem_of_find?_eq_some hc, by simpa using List.find?_some hc⟩
  · rintro ⟨hv, rfl⟩
    obtain ⟨w, hw⟩ : ∃ w, l.child? v.parent = some w :=
      Option.isSome_iff_exists.mp (List.find?_isSome.mpr ⟨v, hv, by simp⟩)
    have hwp : w.parent = v.parent := by simpa using List.find?_some hw
    have hwk : w ∈ l.kept := List.mem_of_find?_eq_some hw
    rw [hw, h.parent_injective (kept_subset hwk) (kept_subset hv) hwp]

@[simp] theorem child?_head (h : l.Sound) : l.child? l.head = none := by
  rw [Option.eq_none_iff_forall_ne_some]
  intro v hv
  obtain ⟨hk, hp⟩ := h.child?_eq_some_iff.mp hv
  exact h.parent_ne_head (kept_subset hk) hp

theorem kept_distinct (h : l.Sound) : (l.kept.map (·.id)).Nodup := by
  have hids : (l.versions.map (·.id)).Nodup := (List.nodup_cons.mp h.distinct).2
  exact hids.sublist ((List.drop_sublist ..).map _)

/-- What follows an id of the chain is the next version, unless it was pruned. -/
theorem child?_at (h : l.Sound) {i : Nat} {id : String} (hi : l.ids[i]? = some id) :
    l.child? id = if l.pruned ≤ i + 1 then l.versions[i]? else none := by
  ext v
  rw [h.child?_eq_some_iff, mem_kept_iff]
  constructor
  · rintro ⟨⟨j, hle, hj⟩, rfl⟩
    obtain rfl := h.index_unique hi (h.linked j v hj)
    rw [if_pos hle, hj]
  · intro hv
    split at hv
    · next hle => exact ⟨⟨i, hle, hv⟩, Option.some.inj ((h.linked i v hv).symm.trans hi)⟩
    · cases hv

end Sound

/-! ## Ledgers stay sound -/

theorem kept_append (h : l.Sound) (v : Version) : (l.append v).kept = l.kept ++ [v] := by
  have hle : l.pruned - 1 ≤ l.versions.length := Nat.le_trans (Nat.sub_le _ _) h.pruned_le
  exact List.drop_append_of_le_length hle

theorem Sound.create (h : l.Sound) : Sound { l with created := true } where
  linked := h.linked
  distinct := h.distinct
  pruned_le := h.pruned_le
  taken := h.taken
  untaken := h.untaken
  uncreated := by simp

theorem Sound.append (h : l.Sound) (hc : l.created) {v : Version} (hp : v.parent = l.head)
    (hf : v.id ∉ l.ids) : (l.append v).Sound where
  linked := by
    intro i w hw
    have hlen := l.length_ids
    rw [ids_append]
    by_cases hi : i < l.versions.length
    · rw [List.getElem?_append_left (by omega)]
      exact h.linked i w (by rwa [Ledger.append, List.getElem?_append_left hi] at hw)
    · -- The new version comes after the head.
      have hw' : i = l.versions.length ∧ v = w := by
        simp only [Ledger.append, List.getElem?_append_right (Nat.le_of_not_lt hi),
          List.getElem?_singleton, Option.ite_none_right_eq_some, Option.some.injEq] at hw
        exact ⟨by omega, hw.2⟩
      obtain ⟨rfl, rfl⟩ := hw'
      rw [List.getElem?_append_left (by omega), ids_length, hp]
  distinct := by
    rw [ids_append]
    exact List.nodup_append.mpr ⟨h.distinct, List.nodup_singleton _, by
      simp only [List.mem_singleton]
      rintro a ha _ rfl rfl
      exact hf ha⟩
  pruned_le := by
    have := h.pruned_le
    simp only [Ledger.append, List.length_append, List.length_singleton]
    omega
  taken := by
    intro t ht
    obtain ⟨hle, hid⟩ := h.taken t ht
    have hlt : t.count < l.ids.length := (List.getElem?_eq_some_iff.mp hid).1
    rw [ids_append, List.getElem?_append_left hlt]
    exact ⟨hle, hid⟩
  untaken := h.untaken
  uncreated := by simp [Ledger.append, hc]

theorem Sound.take (h : l.Sound) (hc : l.created) (data : Bytes) (time : Number) (prune : Bool) :
    (l.take l.head data time prune).Sound where
  linked := h.linked
  distinct := h.distinct
  pruned_le := by
    have := h.pruned_le
    simp only [Ledger.take]
    split <;> omega
  taken := by
    intro t ht
    simp only [Ledger.take, Option.mem_def, Option.some.injEq] at ht
    subst ht
    have := h.pruned_le
    refine ⟨?_, l.ids_length⟩
    simp only [Ledger.take]
    split <;> omega
  untaken := by simp [Ledger.take]
  uncreated := by simp [Ledger.take, hc]

theorem Sound.note (h : l.Sound) {call : Call} (fresh : call.IsFresh l)
    (stamp : Number → Option Number) (time : Number) :
    (l.note ⟨time, call, l.answer stamp time call⟩).Sound := by
  cases call with
  | getClient client => exact h
  | getVersionByParent client parent => exact h
  | getSnapshot client => exact h
  | createClient client =>
    cases hc : l.created <;> simp only [answer, hc, if_true, if_false, Bool.false_eq_true]
    · exact h.create
    · exact h
  | addVersion client parent version segment =>
    cases hc : l.created <;> simp only [answer, hc, if_true, if_false, Bool.false_eq_true]
    · exact h
    · by_cases hp : l.head = parent <;> simp only [hp, if_true, if_false]
      · exact h.append hc hp.symm fresh
      · exact h
  | addSnapshot client version data prune =>
    cases hc : l.created <;> simp only [answer, hc, if_true, if_false, Bool.false_eq_true]
    · exact h
    · by_cases hv : l.head = version <;> simp only [hv, if_true, if_false]
      · subst hv
        exact h.take hc data time prune
      · exact h

/-! ## Appending -/

theorem created_of_committed {stamp : Number → Option Number} {time : Number}
    {client parent version : String} {segment : Bytes} {record : Client}
    (h : l.answer stamp time (.addVersion client parent version segment) =
      .ok (.committed record)) : l.created = true ∧ l.head = parent := by
  cases hc : l.created with
  | false => simp [answer, hc] at h
  | true =>
    by_cases hp : l.head = parent
    · exact ⟨rfl, hp⟩
    · simp [answer, hc, hp] at h

theorem created_of_conflict {stamp : Number → Option Number} {time : Number}
    {client parent version head : String} {segment : Bytes}
    (h : l.answer stamp time (.addVersion client parent version segment) = .ok (.conflict head)) :
    l.created = true ∧ l.head ≠ parent ∧ head = l.head := by
  cases hc : l.created with
  | false => simp [answer, hc] at h
  | true =>
    by_cases hp : l.head = parent
    · simp [answer, hc, hp] at h
    · simp only [answer, hc, hp, if_true, if_false, Except.ok.injEq, Appended.conflict.injEq] at h
      exact ⟨rfl, hp, h.symm⟩

theorem created_of_accepted {stamp : Number → Option Number} {time : Number}
    {client version : String} {data : Bytes} {prune : Bool} {record : Client}
    (h : l.answer stamp time (.addSnapshot client version data prune) =
      .ok (.accepted record)) : l.created = true ∧ l.head = version := by
  cases hc : l.created with
  | false => simp [answer, hc] at h
  | true =>
    by_cases hv : l.head = version
    · exact ⟨rfl, hv⟩
    · simp [answer, hc, hv] at h

/-! ## Pruning -/

theorem filter_head (h : l.Sound) :
    l.kept.filter (·.id = l.head) = l.versions.getLast?.toList := by
  rcases l.versions.eq_nil_or_concat' with hv | ⟨vs, v, hv⟩
  · simp [kept, hv]
  · have hle : l.pruned - 1 ≤ vs.length := by
      have := h.pruned_le
      simp only [hv, List.length_append, List.length_singleton] at this
      omega
    have hhead : l.head = v.id := by simp [head, hv]
    have hnone : (vs.drop (l.pruned - 1)).filter (·.id = v.id) = [] := by
      rw [List.filter_eq_nil_iff]
      intro w hw
      have hd := h.distinct
      simp only [ids, hv, List.map_append, List.map_cons, List.map_nil, ← List.cons_append] at hd
      have hne := (List.nodup_append.mp hd).2.2 w.id
        (List.mem_cons_of_mem _ (List.mem_map_of_mem (List.mem_of_mem_drop hw))) v.id (by simp)
      simpa using hne
    rw [kept, hv, hhead, List.drop_append_of_le_length hle, List.filter_append, hnone]
    simp

theorem kept_take_prune (l : Ledger) (version : String) (data : Bytes) (time : Number) :
    (l.take version data time true).kept = l.versions.getLast?.toList := by
  simp only [kept, take, if_true]
  rcases l.versions.eq_nil_or_concat' with hv | ⟨vs, v, hv⟩ <;> simp [hv]

@[simp] theorem kept_take_keep (l : Ledger) (version : String) (data : Bytes) (time : Number) :
    (l.take version data time false).kept = l.kept := rfl

end Ledger

namespace Ledger

variable {l : Ledger}

/-! ## Records -/

theorem Sound.count_le (h : l.Sound) : ∀ t ∈ l.taken, t.count ≤ l.versions.length := by
  intro t ht
  have hlt := (List.getElem?_eq_some_iff.mp (h.taken t ht).2).1
  rw [length_ids] at hlt
  exact Nat.le_of_lt_succ hlt

theorem record_append (counts : ∀ t ∈ l.taken, t.count ≤ l.versions.length)
    (stamp : Number → Option Number) (client : String) (v : Version) :
    (l.append v).record stamp client = (l.record stamp client).advance v.id := by
  have hle : (l.taken.map (·.count)).getD 0 ≤ l.versions.length := by
    cases ht : l.taken with
    | none => simp
    | some t => exact counts t ht
  simp only [record, Client.advance, head_append]
  simp only [append, List.length_append, List.length_singleton]
  congr 1
  omega

theorem record_take (l : Ledger) (stamp : Number → Option Number) (client version : String)
    (data : Bytes) (time : Number) (prune : Bool) :
    (l.take version data time prune).record stamp client =
      (l.record stamp client).snapshotTaken version (stamp time) := by
  simp only [record, Client.snapshotTaken, head_take]
  simp [take]

end Ledger

/-! ## Histories that go on -/

theorem Ledger.versions_note (l : Ledger) (e : Answered) :
    l.versions <+: (l.note e).versions := by
  unfold Ledger.note
  split
  · exact List.prefix_refl _
  · exact List.prefix_append ..
  · exact List.prefix_refl _
  · exact List.prefix_refl _

theorem Ledger.created_note {l : Ledger} (hc : l.created = true) (e : Answered) :
    (l.note e).created = true := by
  unfold Ledger.note
  split
  · rfl
  · exact hc
  · exact hc
  · exact hc

theorem Ledger.taken_note {l : Ledger} {e : Answered} {t : Taken} (ht : t ∈ (l.note e).taken) :
    t ∈ l.taken ∨ ∃ client data prune, e.call = .addSnapshot client t.version data prune := by
  unfold Ledger.note at ht
  split at ht
  · exact .inl ht
  · exact .inl ht
  · next time client version data prune record =>
    obtain rfl := Option.some.inj ht
    exact .inr ⟨client, data, prune, rfl⟩
  · exact .inl ht

theorem ledger_versions_grow (client : String) {earlier h : History} (hp : earlier <+: h) :
    (ledger client earlier).versions <+: (ledger client h).versions := by
  obtain ⟨rest, rfl⟩ := hp
  induction rest using List.reverseRecOn with
  | nil => simp
  | append_singleton rest e ih =>
    rw [← List.append_assoc, ledger_snoc]
    split
    · exact ih.trans (Ledger.versions_note ..)
    · exact ih

theorem ledger_created_mono {client : String} {earlier h : History} (hp : earlier <+: h)
    (hc : (ledger client earlier).created = true) : (ledger client h).created = true := by
  obtain ⟨rest, rfl⟩ := hp
  induction rest using List.reverseRecOn with
  | nil => simpa using hc
  | append_singleton rest e ih =>
    rw [← List.append_assoc, ledger_snoc]
    split
    · exact Ledger.created_note ih e
    · exact ih

theorem ledger_taken {client : String} {h : History} {t : Taken}
    (ht : t ∈ (ledger client h).taken) :
    ∃ e ∈ h, ∃ other data prune, e.call = .addSnapshot other t.version data prune := by
  induction h using List.reverseRecOn with
  | nil => cases ht
  | append_singleton h e ih =>
    have earlier (ht : t ∈ (ledger client h).taken) :
        ∃ e' ∈ h ++ [e], ∃ other data prune, e'.call = .addSnapshot other t.version data prune := by
      obtain ⟨e', he', made⟩ := ih ht
      exact ⟨e', List.mem_append_left _ he', made⟩
    rw [ledger_snoc] at ht
    split at ht
    · rcases Ledger.taken_note ht with ht | made
      · exact earlier ht
      · exact ⟨e, by simp, made⟩
    · exact earlier ht

/-! ## Lawful histories -/

namespace Lawful

variable {stamp : Number → Option Number} {h : History}

theorem sound (lawful : Lawful stamp h) (client : String) : (ledger client h).Sound := by
  induction lawful with
  | nil => exact .empty
  | @snoc h time call lawful fresh ih =>
    rw [ledger_snoc]
    split
    · next hc =>
      simp only at hc
      rw [hc] at fresh ⊢
      exact ih.note fresh stamp time
    · exact ih

theorem last {e : Answered} (lawful : Lawful stamp (h ++ [e])) :
    Lawful stamp h ∧ e.call.IsFresh (ledger e.call.client h) ∧
      e.reply = (ledger e.call.client h).answer stamp e.time e.call := by
  generalize hh : h ++ [e] = whole at lawful
  cases lawful with
  | nil => simp at hh
  | snoc time call lawful fresh =>
    obtain ⟨rfl, he⟩ := List.append_inj' hh rfl
    obtain rfl := List.singleton_inj.mp he
    exact ⟨lawful, fresh, rfl⟩

theorem of_isPrefix {earlier : History} (lawful : Lawful stamp h) (hp : earlier <+: h) :
    Lawful stamp earlier := by
  obtain ⟨rest, rfl⟩ := hp
  induction rest using List.reverseRecOn with
  | nil => simpa using lawful
  | append_singleton rest e ih =>
    rw [← List.append_assoc] at lawful
    exact ih lawful.last.1

/-- Every call was answered by the ledger of the calls before it. -/
theorem reply {earlier later : History} {e : Answered}
    (lawful : Lawful stamp (earlier ++ e :: later)) :
    e.reply = (ledger e.call.client earlier).answer stamp e.time e.call := by
  have hp : earlier ++ [e] <+: earlier ++ e :: later := ⟨later, by simp⟩
  exact (lawful.of_isPrefix hp).last.2.2

end Lawful

end TaskSync.Store
