import Mathlib.Data.List.Nodup
import TaskSync.Store.Memory

/-!
# Chains in memory

A chain keeps its versions twice, by their ids and by their parents. What it
holds is a list of versions, and the operations on a chain act on that list.
-/

namespace TaskSync.Store

section Ids

variable {versions : List Version} (distinct : (versions.map (·.id)).Nodup)
include distinct

theorem find?_id {v : Version} (hv : v ∈ versions) :
    versions.find? (·.id = v.id) = some v := by
  induction versions with
  | nil => cases hv
  | cons w rest ih =>
    obtain ⟨hw, hrest⟩ := List.nodup_cons.mp distinct
    rcases List.mem_cons.mp hv with rfl | hv
    · simp
    · have hne : w.id ≠ v.id := by
        intro hid
        exact hw (List.mem_map.mpr ⟨v, hv, hid.symm⟩)
      rw [List.find?_cons_of_neg (by simpa using hne)]
      exact ih hrest hv

theorem filter_id (id : String) :
    versions.filter (·.id = id) = (versions.find? (·.id = id)).toList := by
  induction versions with
  | nil => rfl
  | cons w rest ih =>
    obtain ⟨hw, hrest⟩ := List.nodup_cons.mp distinct
    by_cases hid : w.id = id
    · subst hid
      have hnone : rest.filter (·.id = w.id) = [] := by
        rw [List.filter_eq_nil_iff]
        intro v hv
        have hne : v.id ≠ w.id := fun hid => hw (List.mem_map.mpr ⟨v, hv, hid⟩)
        simpa using hne
      simp [hnone]
    · simpa [hid] using ih hrest

end Ids

/-- A chain holds a record, a snapshot and versions, each of which is found by its id and as what
follows its parent. -/
structure Chain.Holds (chain : Chain) (record : Client) (snapshot : Option Bytes)
    (kept : List Version) : Prop where
  client : chain.client = record
  snapshot : chain.snapshot = snapshot
  versions : ∀ id, chain.versions.get? id = kept.find? (·.id = id)
  children : ∀ parent,
    chain.children.get? parent = (kept.find? (·.parent = parent)).map (·.id)

namespace Chain.Holds

variable {chain : Chain} {record : Client} {snapshot : Option Bytes} {kept : List Version}

theorem fresh (client : String) : (Chain.fresh client).Holds (.fresh client) none [] := by
  constructor <;> intros <;> rfl

theorem child? (holds : chain.Holds record snapshot kept)
    (distinct : (kept.map (·.id)).Nodup) (parent : String) :
    chain.child? parent = kept.find? (·.parent = parent) := by
  unfold Chain.child?
  rw [holds.children]
  cases hc : kept.find? (·.parent = parent) with
  | none => rfl
  | some v =>
    have hv := List.mem_of_find?_eq_some hc
    rw [Option.map_some, Option.bind_some, holds.versions, find?_id distinct hv]

theorem append (holds : chain.Holds record snapshot kept) {v : Version}
    (parent : ∀ w ∈ kept, w.parent ≠ v.parent) (id : ∀ w ∈ kept, w.id ≠ v.id) :
    (chain.append v).Holds (record.advance v.id) snapshot (kept ++ [v]) where
  client := by
    rw [← holds.client]
    rfl
  snapshot := holds.snapshot
  versions := by
    intro other
    rw [Chain.append, Table.get?_set, holds.versions, List.find?_append, List.find?_singleton]
    by_cases hid : other = v.id
    · subst hid
      have hnone : kept.find? (·.id = v.id) = none := by simpa using id
      simp [hnone]
    · simp [hid, Ne.symm hid]
  children := by
    intro other
    simp only [Chain.append, Table.get?_set, holds.children, List.find?_append,
      List.find?_singleton]
    by_cases hpar : other = v.parent
    · subst hpar
      have hnone : kept.find? (·.parent = v.parent) = none := by simpa using parent
      simp [hnone]
    · simp [hpar, Ne.symm hpar]

theorem take (holds : chain.Holds record snapshot kept) (version : String) (data : Bytes)
    (time : Number) :
    (chain.takeSnapshot version data time).Holds (record.snapshotTaken version (some time))
      (some data) kept where
  client := by
    rw [← holds.client]
    rfl
  snapshot := rfl
  versions := holds.versions
  children := holds.children

theorem keepOnly (holds : chain.Holds record snapshot kept)
    (distinct : (kept.map (·.id)).Nodup) (id : String) :
    (chain.keepOnly id).Holds record snapshot (kept.filter (·.id = id)) := by
  unfold Chain.keepOnly
  rw [holds.versions, filter_id distinct]
  cases hfind : kept.find? (·.id = id) with
  | none =>
    constructor
    · exact holds.client
    · exact holds.snapshot
    · simp
    · simp
  | some v =>
    constructor
    · exact holds.client
    · exact holds.snapshot
    · intro other
      simp [Table.get?, Table.getEntry?]
    · intro parent
      by_cases hp : v.parent = parent <;> simp [Table.get?, Table.getEntry?, hp]

end Chain.Holds

end TaskSync.Store
