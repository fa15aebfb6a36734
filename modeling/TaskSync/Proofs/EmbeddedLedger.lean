import TaskSync.Proofs.EmbeddedCalls
import TaskSync.Proofs.Ledger

/-!
# The embedded database keeps ledgers

As long as no event is made to fail, the rows of a client are what the ledger of
its calls says, and every call is answered by the ledger.
-/

namespace TaskSync.Store

/-! ## Rows and ledgers -/

def Ledger.row? (l : Ledger) (stamp : Number → Option Number) (client : String) :
    Option ClientRow :=
  if l.created then some ⟨l.record stamp client, l.taken.map (·.data)⟩ else none

/-- The rows of a database agree with the ledgers of its calls. -/
structure Database.Keeps (db : Database) (h : History) : Prop where
  clients : ∀ client,
    db.clients.find? (·.record.id = client) = (ledger client h).row? Embedded.timeColumn client
  versions : ∀ client, versionsOf client db.versions = (ledger client h).kept

namespace Database.Keeps

variable {db : Database} {h : History}

theorem empty : Database.empty.Keeps [] := ⟨fun _ => rfl, fun _ => rfl⟩

theorem unchanged (keeps : db.Keeps h) (e : Answered)
    (same : (ledger e.call.client h).note e = ledger e.call.client h) : db.Keeps (h ++ [e]) := by
  have hledger : ∀ client, ledger client (h ++ [e]) = ledger client h := by
    intro client
    rw [ledger_snoc]
    split
    · next hc => rw [← hc, same]
    · rfl
  constructor <;> intro client <;> rw [hledger]
  · exact keeps.clients client
  · exact keeps.versions client

theorem row_of_created (keeps : db.Keeps h) {client : String}
    (hc : (ledger client h).created = true) :
    db.clients.find? (·.record.id = client) =
      some ⟨(ledger client h).record Embedded.timeColumn client,
        (ledger client h).taken.map (·.data)⟩ := by
  rw [keeps.clients, Ledger.row?, if_pos hc]

theorem row_of_not_created (keeps : db.Keeps h) {client : String}
    (hc : (ledger client h).created = false) :
    db.clients.find? (·.record.id = client) = none := by
  rw [keeps.clients, Ledger.row?, hc]
  rfl

theorem insert (keeps : db.Keeps h) (time : Number) {client : String}
    (empty : ledger client h = {}) :
    Database.Keeps ⟨db.clients ++ [⟨.fresh client, none⟩], db.versions⟩
      (h ++ [⟨time, .createClient client, .ok (.fresh client)⟩]) := by
  constructor <;> intro other <;> rw [ledger_snoc]
  · have hother := keeps.clients other
    rw [List.find?_append, hother]
    by_cases hc : client = other
    · subst hc
      simp [Call.client, Client.fresh, empty, Ledger.note, Ledger.row?, Ledger.record, Ledger.head]
    · simp [Call.client, Client.fresh, hc]
  · rw [keeps.versions]
    by_cases hc : client = other
    · simp [Call.client, Ledger.note, hc, Ledger.kept]
    · simp [Call.client, hc]

theorem update (keeps : db.Keeps h) (e : Answered) {versions : List VersionRow}
    {change : ClientRow → ClientRow} (hid : ∀ row, (change row).record.id = row.record.id)
    (row : ((ledger e.call.client h).row? Embedded.timeColumn e.call.client).map change =
      ((ledger e.call.client h).note e).row? Embedded.timeColumn e.call.client)
    (own : versionsOf e.call.client versions = ((ledger e.call.client h).note e).kept)
    (others : ∀ other, other ≠ e.call.client →
      versionsOf other versions = versionsOf other db.versions) :
    Database.Keeps ⟨changeRow e.call.client change db.clients, versions⟩ (h ++ [e]) := by
  constructor <;> intro client <;> rw [ledger_snoc]
  · rw [find?_changeRow db.clients e.call.client hid, keeps.clients, keeps.clients]
    by_cases hc : e.call.client = client
    · subst hc
      simpa using row
    · simp [hc, Ne.symm hc]
  · by_cases hc : e.call.client = client
    · subst hc
      simpa using own
    · simp only [hc, if_false]
      rw [others client (Ne.symm hc), keeps.versions]

end Database.Keeps

/-! ## One lemma for each call -/

namespace Embedded

variable {db : Database} {h : History}

/-- The database answers a call by the ledger, and has noted it then. -/
def Answers (db : Database) (h : History) (time : Number) (c : Call) : Prop :=
  (call time c [] db).1 = (ledger c.client h).answer timeColumn time c ∧
    (call time c [] db).2.Keeps
      (h ++ [⟨time, c, (ledger c.client h).answer timeColumn time c⟩])

theorem Answers.intro {time : Number} {c : Call} (reply : Except Failure c.Reply)
    {after : Database} (call_eq : call time c [] db = (reply, after))
    (answer_eq : (ledger c.client h).answer timeColumn time c = reply)
    (keeps : after.Keeps (h ++ [⟨time, c, reply⟩])) : Answers db h time c := by
  unfold Answers
  rw [call_eq, answer_eq]
  exact ⟨rfl, keeps⟩

variable (keeps : db.Keeps h) (sound : ∀ client, (ledger client h).Sound) (time : Number)
include keeps

theorem keeps_getClient (client : String) : Answers db h time (.getClient client) := by
  refine .intro _ (call_getClient time client) ?_ (keeps.unchanged _ rfl)
  rw [keeps.clients]
  cases hc : (ledger client h).created <;> simp [Call.client, Ledger.answer, Ledger.row?, hc]

theorem keeps_getVersionByParent (client parent : String) :
    Answers db h time (.getVersionByParent client parent) := by
  refine .intro _ (call_getVersionByParent time client parent) ?_ (keeps.unchanged _ rfl)
  rw [keeps.versions]
  rfl

include sound

theorem keeps_createClient (client : String) : Answers db h time (.createClient client) := by
  cases hc : (ledger client h).created with
  | true =>
    exact .intro _ (call_createClient_exists time (keeps.row_of_created hc))
      (by simp [Call.client, Ledger.answer, hc]) (keeps.unchanged _ rfl)
  | false =>
    exact .intro _ (call_createClient_ok time client (keeps.row_of_not_created hc))
      (by simp [Call.client, Ledger.answer, hc])
      (keeps.insert time ((sound client).uncreated hc))

theorem keeps_getSnapshot (client : String) : Answers db h time (.getSnapshot client) := by
  refine .intro _ (call_getSnapshot time client) ?_ (keeps.unchanged _ rfl)
  simp only [keeps.clients, Call.client, Ledger.answer, Ledger.row?]
  cases hc : (ledger client h).created with
  | false => simp [(sound client).uncreated hc]
  | true => cases ht : (ledger client h).taken <;> simp [snapshot?, Ledger.record, ht]

theorem repeatedKey?_fresh (client : String) (version : Version)
    (hp : version.parent = (ledger client h).head)
    (fresh : version.id ∉ (ledger client h).ids) :
    repeatedKey? db.versions ⟨client, version⟩ = none := by
  rw [repeatedKey?_eq_none_iff, keeps.versions]
  intro w hw
  have kept := Ledger.kept_subset hw
  refine ⟨?_, ?_⟩
  · rw [hp]
    exact (sound client).parent_ne_head kept
  · intro hid
    exact fresh (hid ▸ Ledger.id_mem_ids kept)

theorem keeps_addVersion (client parent : String) {version : String}
    (fresh : version ∉ (ledger client h).ids) (segment : Bytes) :
    Answers db h time (.addVersion client parent version segment) := by
  cases hc : (ledger client h).created with
  | false =>
    exact .intro _ (call_addVersion_unknown time client (keeps.row_of_not_created hc) ..)
      (by simp [Call.client, Ledger.answer, hc]) (keeps.unchanged _ rfl)
  | true =>
    have row := keeps.row_of_created hc
    by_cases hp : (ledger client h).head = parent
    · have free := repeatedKey?_fresh keeps sound client ⟨version, parent, segment⟩ hp.symm fresh
      have record := Ledger.record_append (sound client).count_le timeColumn client
        ⟨version, parent, segment⟩
      refine .intro _ (call_addVersion_committed time row hp free) ?_ ?_
      · simp [Call.client, Ledger.answer, hc, hp, record]
      · refine keeps.update ⟨time, .addVersion client parent version segment, .ok (.committed _)⟩
          (fun _ => rfl) ?_ ?_ ?_
        · simp only [Call.client, Ledger.note, Ledger.row?, hc, if_true, Option.map_some, record]
          simp [Ledger.append, hc]
        · change versionsOf client _ = ((ledger client h).append _).kept
          rw [versionsOf_append, keeps.versions, Ledger.kept_append (sound client)]
          simp [versionsOf]
        · intro other ho
          have hne : client ≠ other := Ne.symm ho
          rw [versionsOf_append]
          simp [versionsOf, hne]
    · exact .intro _ (call_addVersion_conflict time row hp version segment)
        (by simp [Call.client, Ledger.answer, hc, hp, Ledger.record]) (keeps.unchanged _ rfl)

theorem keeps_addSnapshot (client version : String) (data : Bytes) (prune : Bool) :
    Answers db h time (.addSnapshot client version data prune) := by
  cases hc : (ledger client h).created with
  | false =>
    exact .intro _ (call_addSnapshot_unknown time client (keeps.row_of_not_created hc) ..)
      (by simp [Call.client, Ledger.answer, hc]) (keeps.unchanged _ rfl)
  | true =>
    have row := keeps.row_of_created hc
    by_cases hv : (ledger client h).head = version
    · have record := Ledger.record_take (ledger client h) timeColumn client version data time prune
      refine .intro _ (call_addSnapshot_accepted time row hv data prune) ?_ ?_
      · simp [Call.client, Ledger.answer, hc, hv, record]
      · refine keeps.update ⟨time, .addSnapshot client version data prune, .ok (.accepted _)⟩
          (fun _ => rfl) ?_ ?_ ?_
        · simp only [Call.client, Ledger.note, Ledger.row?, hc, if_true, Option.map_some, record]
          simp [Ledger.take, hc]
        · change versionsOf client _ = ((ledger client h).take ..).kept
          cases prune with
          | false => exact keeps.versions client
          | true =>
            simp only [if_true]
            rw [versionsOf_delete, if_pos rfl, keeps.versions, ← hv,
              Ledger.filter_head (sound client), Ledger.kept_take_prune]
        · intro other ho
          have hne : other ≠ client := ho
          cases prune with
          | false => rfl
          | true =>
            simp only [if_true]
            rw [versionsOf_delete, if_neg hne]
    · exact .intro _ (call_addSnapshot_mismatch time row hv data prune)
        (by simp [Call.client, Ledger.answer, hc, hv, Ledger.record]) (keeps.unchanged _ rfl)

theorem keeps_answers {c : Call} (fresh : c.IsFresh (ledger c.client h)) :
    Answers db h time c := by
  cases c with
  | getClient client => exact keeps_getClient keeps time client
  | createClient client => exact keeps_createClient keeps sound time client
  | getVersionByParent client parent => exact keeps_getVersionByParent keeps time client parent
  | addVersion client parent version segment =>
    exact keeps_addVersion keeps sound time client parent fresh segment
  | addSnapshot client version data prune =>
    exact keeps_addSnapshot keeps sound time client version data prune
  | getSnapshot client => exact keeps_getSnapshot keeps sound time client

end Embedded

end TaskSync.Store
