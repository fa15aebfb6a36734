/-!
# Tables

A finite map from texts. Setting a key that is there keeps its place.
-/

namespace TaskSync.Store

structure Table (α : Type) where
  entries : List (String × α) := []
deriving DecidableEq

namespace Table

variable {α : Type}

def getEntry? (key : String) : List (String × α) → Option α
  | [] => none
  | (k, value) :: rest => if k = key then some value else getEntry? key rest

def setEntry (key : String) (value : α) : List (String × α) → List (String × α)
  | [] => [(key, value)]
  | (k, old) :: rest => if k = key then (k, value) :: rest else (k, old) :: setEntry key value rest

def get? (t : Table α) (key : String) : Option α := getEntry? key t.entries

def set (t : Table α) (key : String) (value : α) : Table α := ⟨setEntry key value t.entries⟩

/-! ## Laws -/

@[simp] theorem get?_empty (key : String) : (⟨[]⟩ : Table α).get? key = none := rfl

theorem getEntry?_setEntry (l : List (String × α)) (key : String) (value : α) (other : String) :
    getEntry? other (setEntry key value l) =
      if other = key then some value else getEntry? other l := by
  induction l with
  | nil => simp [setEntry, getEntry?, eq_comm]
  | cons entry rest ih =>
    obtain ⟨k, old⟩ := entry
    by_cases hk : k = key
    · subst hk
      by_cases ho : k = other
      · simp [setEntry, getEntry?, ho]
      · simp [setEntry, getEntry?, ho, Ne.symm ho]
    · by_cases ho : k = other
      · subst ho
        simp [setEntry, getEntry?, hk]
      · simp [setEntry, getEntry?, hk, ho, ih]

@[simp] theorem get?_set (t : Table α) (key : String) (value : α) (other : String) :
    (t.set key value).get? other = if other = key then some value else t.get? other :=
  getEntry?_setEntry t.entries key value other

end Table

end TaskSync.Store
