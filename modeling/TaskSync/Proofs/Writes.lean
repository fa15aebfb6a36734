import TaskSync.Proofs.Ledger

/-!
# What a history has written

The versions committed for a client, and the snapshots accepted, call by call. A
ledger has nothing else but whether its client was created.
-/

namespace TaskSync.Store

namespace Answered

def version? (client : String) : Answered → Option Version
  | ⟨_, .addVersion owner parent version segment, .ok (.committed _)⟩ =>
    if owner = client then some ⟨version, parent, segment⟩ else none
  | _ => none

def snapshot? (client : String) : Answered → Option Snapshot
  | ⟨_, .addSnapshot owner version data _, .ok (.accepted _)⟩ =>
    if owner = client then some ⟨version, data⟩ else none
  | _ => none

def commits (client : String) (e : Answered) : Bool := (e.version? client).isSome

def prunes (client : String) : Answered → Bool
  | ⟨_, .addSnapshot owner _ _ prune, .ok (.accepted _)⟩ => owner = client && prune
  | _ => false

theorem snapshot?_eq_some {client : String} {e : Answered} {snapshot : Snapshot}
    (accepted : e.snapshot? client = some snapshot) :
    ∃ prune record, e = ⟨e.time, .addSnapshot client snapshot.version snapshot.data prune,
      .ok (.accepted record)⟩ := by
  unfold snapshot? at accepted
  split at accepted
  · split at accepted
    · next hc =>
      subst hc
      obtain rfl := Option.some.inj accepted
      exact ⟨_, _, rfl⟩
    · cases accepted
  · cases accepted

theorem not_prunes {client : String} {e : Answered} (none : e.snapshot? client = none) :
    e.prunes client = false := by
  match e with
  | ⟨time, .addSnapshot owner version data prune, .ok (.accepted record)⟩ =>
    have other : owner ≠ client := fun hc => by simp [snapshot?, hc] at none
    simp [prunes, other]
  | ⟨time, .addSnapshot owner version data prune, .ok (.mismatch head)⟩
  | ⟨time, .addSnapshot owner version data prune, .error failure⟩
  | ⟨time, .addVersion .., reply⟩
  | ⟨time, .createClient .., reply⟩
  | ⟨time, .getClient .., reply⟩
  | ⟨time, .getVersionByParent .., reply⟩
  | ⟨time, .getSnapshot .., reply⟩ => rfl

theorem of_other {e : Answered} {client : String} (other : e.call.client ≠ client) :
    e.version? client = none ∧ e.snapshot? client = none := by
  unfold version? snapshot?
  constructor
  · split
    · exact if_neg other
    · rfl
  · split
    · exact if_neg other
    · rfl

end Answered

/-! ## What a ledger notes -/

theorem Ledger.note_eq (l : Ledger) (e : Answered) :
    (l.note e).versions = l.versions ++ (e.version? e.call.client).toList ∧
      (l.note e).taken = ((e.snapshot? e.call.client).map fun s =>
        ⟨s.version, s.data, e.time, l.versions.length⟩).or l.taken ∧
      (l.note e).pruned = if e.prunes e.call.client then l.versions.length else l.pruned := by
  match e with
  | ⟨time, .addVersion owner parent version segment, .ok (.committed record)⟩
  | ⟨time, .addVersion owner parent version segment, .ok (.conflict head)⟩
  | ⟨time, .addVersion owner parent version segment, .error failure⟩
  | ⟨time, .addSnapshot owner version data prune, .ok (.accepted record)⟩
  | ⟨time, .addSnapshot owner version data prune, .ok (.mismatch head)⟩
  | ⟨time, .addSnapshot owner version data prune, .error failure⟩
  | ⟨time, .createClient owner, .ok record⟩
  | ⟨time, .createClient owner, .error failure⟩
  | ⟨time, .getClient owner, reply⟩
  | ⟨time, .getVersionByParent owner parent, reply⟩
  | ⟨time, .getSnapshot owner, reply⟩ =>
    simp [Call.client, note, append, take, Answered.version?, Answered.snapshot?, Answered.prunes]

variable (client : String)

theorem ledger_versions (h : History) :
    (ledger client h).versions = h.filterMap (·.version? client) := by
  induction h using List.reverseRecOn with
  | nil => rfl
  | append_singleton h e ih =>
    have hlast : [e].filterMap (·.version? client) = (e.version? client).toList := by
      cases he : e.version? client <;> simp [he]
    rw [List.filterMap_append, ← ih, ledger_snoc, hlast]
    by_cases hc : e.call.client = client
    · subst hc
      rw [if_pos rfl, (Ledger.note_eq _ e).1]
    · rw [if_neg hc, (Answered.of_other hc).1, Option.toList_none, List.append_nil]

theorem ledger_commits (h : History) :
    (ledger client h).versions.length = h.countP (·.commits client) := by
  rw [ledger_versions, List.length_filterMap_eq_countP]
  rfl

theorem ledger_taken_snoc (h : History) (e : Answered) :
    (ledger client (h ++ [e])).taken =
      ((e.snapshot? client).map fun s => ⟨s.version, s.data, e.time, h.countP (·.commits client)⟩).or
        (ledger client h).taken := by
  rw [ledger_snoc, ← ledger_commits]
  by_cases hc : e.call.client = client
  · subst hc
    rw [if_pos rfl, (Ledger.note_eq _ e).2.1]
  · rw [if_neg hc, (Answered.of_other hc).2]
    rfl

theorem ledger_pruned_snoc (h : History) (e : Answered) :
    (ledger client (h ++ [e])).pruned =
      if e.prunes client then h.countP (·.commits client) else (ledger client h).pruned := by
  rw [ledger_snoc, ← ledger_commits]
  by_cases hc : e.call.client = client
  · subst hc
    rw [if_pos rfl, (Ledger.note_eq _ e).2.2]
  · rw [if_neg hc, Answered.not_prunes (Answered.of_other hc).2]
    rfl

end TaskSync.Store
