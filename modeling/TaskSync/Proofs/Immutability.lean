import TaskSync.Proofs.Serving

/-!
# A version never changes

What follows a version is asked for and answered over HTTP: first that there is
nothing, then the one version that was ever added there, and after a snapshot
that pruned only that it is gone.
-/

namespace TaskSync

def Http.Response.header? (response : Http.Response) (name : String) : Option String :=
  (response.allHeaders.find? (·.1 = name)).map (·.2)

namespace Scenario

open Store
open Http (App)

namespace Served

variable (app : App) (client : String)

/-- The version that a request added for a client. -/
def added? (s : Served) : Option Version :=
  match app.asks s.request with
  | some (.addVersion owner parent segment) =>
    if owner = client ∧ s.response.status = 200 then
      some ⟨(s.response.header? "x-version-id").getD "", parent, segment⟩
    else none
  | _ => none

/-- The version whose snapshot was accepted by a request, if it pruned the client's versions. -/
def pruned? (s : Served) : Option String :=
  match app.asks s.request with
  | some (.addSnapshot _ version data) =>
    if app.engine.retention = .pruneOnSnapshot ∧
        s.calls.any (·.snapshot? client = some ⟨version, data⟩) then some version
    else none
  | _ => none

/-- A request to read what follows a version of a client's. -/
structure Gets (parent : String) (s : Served) : Prop where
  verb : s.request.verb = "GET"
  asks : app.asks s.request = some (.getChildVersion client parent)

end Served

/-! ## What one request does -/

theorem added_answer (version : String) (urgency : Urgency) (headers : List (String × String))
    (headOnly : Bool) :
    let response : Http.Response :=
      { (Http.Command.sendAdded (.added version urgency)).withHeaders headers with headOnly }
    response.status = 200 ∧ response.header? "x-version-id" = some version := by
  cases urgency <;> exact ⟨rfl, rfl⟩

theorem Served.bytes_of_added {app : App} {client : String} {s : Served} {v : Version}
    (added : s.added? app client = some v) : v.segment = s.request.body.bytes := by
  unfold added? at added
  split at added
  · next owner parent segment asks =>
    split at added
    · obtain rfl := Option.some.inj added
      exact App.bytes_of_addVersion asks
    · cases added
  · cases added

namespace Served.Handled

variable {app : App} {h : History} {s : Served}

theorem versions (handled : s.Handled app h) (client : String) :
    (ledger client (h ++ s.calls)).versions =
        (ledger client h).versions ++ (s.added? app client).toList ∧
      ∀ v ∈ s.added? app client, s.response.header? "x-version-id" = some v.id := by
  obtain ⟨inner, headers, handled, response⟩ := handled
  unfold added?
  generalize app.asks s.request = asked at handled ⊢
  generalize h ++ s.calls = h' at handled ⊢
  have none (quiet : Quiet h h') : (ledger client h').versions = (ledger client h).versions ++
      (none : Option Version).toList := (quiet.versions client).trans (List.append_nil _).symm
  cases handled with
  | nothing inner quiet => exact ⟨none quiet, nofun⟩
  | command settles answers =>
    cases settles with
    | getChildVersion quiet | getSnapshot quiet => exact ⟨none quiet, nofun⟩
    | addSnapshot takes =>
      refine ⟨?_, nofun⟩
      cases takes with
      | rejected quiet => exact none quiet
      | accepted quiet head time record =>
        rw [ledger_versions, List.filterMap_append, ← ledger_versions, quiet.versions]
        rfl
    | @addVersion owner parent segment answer h' adds =>
      cases answers
      cases adds with
      | conflict quiet other =>
        have status : s.response.status = 409 := by rw [response]; rfl
        simp [quiet.versions, status]
      | added quiet head time version urgency record =>
        obtain ⟨status, header⟩ := added_answer version urgency headers
          (decide ((App.destination s.request).method = "HEAD"))
        rw [← response] at status header
        rw [ledger_versions, List.filterMap_append, ← ledger_versions, quiet.versions]
        dsimp only
        rw [status, header]
        by_cases own : owner = client
        · simp [Answered.version?, own]
        · simp [Answered.version?, own]

theorem pruned (handled : s.Handled app h) (client : String) :
    (ledger client (h ++ s.calls)).pruned =
        (if (s.pruned? app client).isSome then (ledger client h).versions.length
          else (ledger client h).pruned) ∧
      ∀ version ∈ s.pruned? app client, version = (ledger client h).head := by
  obtain ⟨inner, headers, handled, response⟩ := handled
  unfold pruned?
  generalize app.asks s.request = asked at handled ⊢
  generalize whole : h ++ s.calls = h' at handled ⊢
  cases handled with
  | nothing inner quiet => exact ⟨(quiet.snapshots client).1, nofun⟩
  | command settles =>
    cases settles with
    | getChildVersion quiet | getSnapshot quiet => exact ⟨(quiet.snapshots client).1, nofun⟩
    | addVersion adds =>
      refine ⟨?_, nofun⟩
      cases adds with
      | conflict quiet head => exact (quiet.snapshots client).1
      | added quiet head time version urgency record =>
        rw [ledger_pruned_snoc]
        exact (quiet.snapshots client).1
    | addSnapshot takes =>
      subst whole
      obtain ⟨pruned, own⟩ := takes.pruned client
      rw [pruned]
      simp only [decide_eq_true_eq]
      split
      · next prunes => exact ⟨rfl, fun _ named => Option.some.inj named ▸ own prunes.2⟩
      · exact ⟨rfl, nofun⟩

theorem child {client parent : String} (handled : s.Handled app h)
    (gets : s.Gets app client parent) :
    ∃ headers, s.response = { (Http.Command.sendChild
      ((ledger client h).childAnswer parent)).withHeaders headers with headOnly := false } := by
  obtain ⟨inner, headers, handled, response⟩ := handled
  have verb : (App.destination s.request).method = "GET" := gets.verb
  rw [gets.asks] at handled
  rw [verb] at response
  cases handled with
  | command settles answers =>
    cases settles with
    | getChildVersion quiet =>
      cases answers
      exact ⟨headers, response⟩

end Served.Handled

/-! ## What some requests do -/

/-- The calls were answered by the ledgers, and every request was handled. -/
structure Orderly (stamp : Number → Option Number) (app : App) (served : List Served) : Prop where
  lawful : Lawful stamp (historyOf served)
  handled : ∀ before this after, served = before ++ this :: after →
    this.Handled app (historyOf before)

namespace Orderly

variable {stamp : Number → Option Number} {app : App} {served : List Served}

theorem of_isPrefix {earlier : List Served} (orderly : Orderly stamp app served)
    (hp : earlier <+: served) : Orderly stamp app earlier := by
  obtain ⟨rest, rfl⟩ := hp
  constructor
  · refine orderly.lawful.of_isPrefix ?_
    rw [historyOf_append]
    exact List.prefix_append ..
  · rintro before this after rfl
    exact orderly.handled before this (after ++ rest) (by simp)

theorem last {this : Served} (orderly : Orderly stamp app (served ++ [this])) :
    this.Handled app (historyOf served) :=
  orderly.handled served this [] rfl

theorem versions (orderly : Orderly stamp app served) (client : String) :
    (ledger client (historyOf served)).versions = served.filterMap (·.added? app client) := by
  induction served using List.reverseRecOn with
  | nil => rfl
  | append_singleton served this ih =>
    have before := ih (orderly.of_isPrefix (List.prefix_append ..))
    rw [historyOf_append, historyOf_singleton, (orderly.last.versions client).1, before,
      List.filterMap_append]
    cases added : this.added? app client <;> simp [added]

end Orderly

/-- A request pruned on a version that one of some requests had added. -/
def PrunedLater (app : App) (client : String) (later : List Served) : Prop :=
  ∃ earlier pruner rest v, later = earlier ++ pruner :: rest ∧
    v ∈ earlier.filterMap (·.added? app client) ∧ pruner.pruned? app client = some v.id

theorem prunedLater_snoc {app : App} {client : String} {later : List Served} {this : Served} :
    PrunedLater app client (later ++ [this]) ↔ PrunedLater app client later ∨
      ∃ v ∈ later.filterMap (·.added? app client), this.pruned? app client = some v.id := by
  constructor
  · rintro ⟨earlier, pruner, rest, v, split, hv, pruned⟩
    rcases snoc_eq_split split with ⟨rfl, rfl⟩ | ⟨rest', split'⟩
    · exact .inr ⟨v, hv, pruned⟩
    · exact .inl ⟨earlier, pruner, rest', v, split', hv, pruned⟩
  · rintro (⟨earlier, pruner, rest, v, rfl, hv, pruned⟩ | ⟨v, hv, pruned⟩)
    · exact ⟨earlier, pruner, rest ++ [this], v, by simp, hv, pruned⟩
    · exact ⟨later, this, [], v, rfl, hv, pruned⟩

theorem PrunedLater.some_added {app : App} {client : String} {later : List Served}
    (pruned : PrunedLater app client later) :
    later.filterMap (·.added? app client) ≠ [] := by
  obtain ⟨earlier, pruner, rest, v, rfl, hv, -⟩ := pruned
  rw [List.filterMap_append]
  exact List.append_ne_nil_of_left_ne_nil (List.ne_nil_of_mem hv) _

theorem PrunedLater.append {app : App} {client : String} {later : List Served}
    (pruned : PrunedLater app client later) (more : List Served) :
    PrunedLater app client (later ++ more) := by
  obtain ⟨earlier, pruner, rest, v, rfl, hv, pruned⟩ := pruned
  exact ⟨earlier, pruner, rest ++ more, v, by simp, hv, pruned⟩

namespace Orderly

variable {stamp : Number → Option Number} {app : App} {before : List Served} {adder : Served}
  {later : List Served} {client : String} {v : Version}

theorem versions_split (orderly : Orderly stamp app (before ++ adder :: later))
    (added : adder.added? app client = some v) :
    (ledger client (historyOf (before ++ adder :: later))).versions =
      before.filterMap (·.added? app client) ++ v :: later.filterMap (·.added? app client) := by
  rw [orderly.versions, List.filterMap_append, List.filterMap_cons_some added]

/-- A version is pruned away by those snapshots that are of a later one. -/
theorem pruned_iff (orderly : Orderly stamp app (before ++ adder :: later))
    (added : adder.added? app client = some v) :
    PrunedLater app client later ↔ (before.filterMap (·.added? app client)).length + 1 <
      (ledger client (historyOf (before ++ adder :: later))).pruned := by
  induction later using List.reverseRecOn with
  | nil =>
    have le := (orderly.lawful.sound client).pruned_le
    rw [orderly.versions_split added, List.length_append] at le
    simp only [List.filterMap_nil, List.length_singleton] at le
    exact iff_of_false (fun pruned => pruned.some_added rfl) (Nat.not_lt.mpr le)
  | append_singleton later this ih =>
    rw [← List.cons_append, ← List.append_assoc] at orderly ⊢
    have earlier := orderly.of_isPrefix (List.prefix_append ..)
    obtain ⟨pruned, own⟩ := orderly.last.pruned client
    rw [historyOf_append, historyOf_singleton, pruned, prunedLater_snoc]
    cases snapshot : this.pruned? app client with
    | none =>
      simp only [reduceCtorEq, and_false, exists_false, or_false, Option.isSome_none,
        Bool.false_eq_true, if_false]
      exact ih earlier
    | some version =>
      have split := earlier.versions_split added
      have head : version = (ledger client (historyOf (before ++ adder :: later))).head :=
        own version snapshot
      -- The snapshot is of the head, and that is a later version if one was added.
      rw [Option.isSome_some, if_pos rfl, split, List.length_append, List.length_cons]
      rcases List.eq_nil_or_concat' (later.filterMap (·.added? app client)) with hnil | ⟨ws, w, hw⟩
      · rw [hnil]
        refine iff_of_false ?_ (by simp)
        rintro (pruned | ⟨w, hw, -⟩)
        · exact pruned.some_added hnil
        · cases hw
      · rw [hw]
        refine iff_of_true (.inr ⟨w, by simp, ?_⟩) (by simp)
        rw [head, Ledger.head, split, hw, ← List.cons_append, ← List.append_assoc,
          List.getLast?_concat]
        rfl

/-! ## Reading what follows a version -/

theorem index (orderly : Orderly stamp app (before ++ adder :: later))
    (added : adder.added? app client = some v) :
    (ledger client (historyOf (before ++ adder :: later))).versions[
      (before.filterMap (·.added? app client)).length]? = some v := by
  rw [orderly.versions_split added]
  rw [List.getElem?_append_right (Nat.le_refl _), Nat.sub_self, List.getElem?_cons_zero]

theorem absent (orderly : Orderly stamp app before) {parent : String}
    (known : parent ∈ nilId :: (before.filterMap (·.added? app client)).map (·.id))
    (none : ∀ v ∈ before.filterMap (·.added? app client), v.parent ≠ parent) :
    (ledger client (historyOf before)).childAnswer parent = .upToDate := by
  have sound := orderly.lawful.sound client
  rw [← orderly.versions] at known none
  -- The id has a place in the chain, and what would come behind it has it as its parent.
  obtain ⟨i, hi⟩ := List.mem_iff_getElem?.mp known
  have last : (ledger client (historyOf before)).versions[i]? = Option.none := by
    rw [Option.eq_none_iff_forall_ne_some]
    intro v hv
    exact none v (List.mem_of_getElem? hv) (Option.some.inj ((sound.linked i v hv).symm.trans hi))
  have le := sound.pruned_le
  have after := List.getElem?_eq_none_iff.mp last
  rw [Ledger.childAnswer_at sound hi (by omega), last]

theorem present (orderly : Orderly stamp app (before ++ adder :: later))
    (added : adder.added? app client = some v) (kept : ¬PrunedLater app client later) :
    (ledger client (historyOf (before ++ adder :: later))).childAnswer v.parent = .found v := by
  have sound := orderly.lawful.sound client
  have hv := orderly.index added
  rw [orderly.pruned_iff added, Nat.not_lt] at kept
  rw [Ledger.childAnswer_at sound (sound.linked _ v hv) kept, hv]

theorem gone (orderly : Orderly stamp app (before ++ adder :: later))
    (added : adder.added? app client = some v) (pruned : PrunedLater app client later) :
    (ledger client (historyOf (before ++ adder :: later))).childAnswer v.parent = .gone :=
  Ledger.childAnswer_pruned (orderly.lawful.sound client) (orderly.index added)
    ((orderly.pruned_iff added).mp pruned)

end Orderly

/-! ## Forward only -/

/-- The ids of the versions that a client can ask about. -/
def Known (app : App) (client : String) (served : List Served) (id : String) : Prop :=
  id ∈ nilId :: (served.filterMap (·.added? app client)).map (·.id)

theorem Known.append {app : App} {client id : String} {served : List Served}
    (known : Known app client served id) (more : List Served) :
    Known app client (served ++ more) id := by
  unfold Known
  rw [List.filterMap_append, List.map_append, ← List.cons_append]
  exact List.mem_append_left _ known

/-- How far it is told about what follows a version: nothing yet, the version, no more. -/
def stage? : Nat → Option Nat
  | 404 => some 0
  | 200 => some 1
  | 410 => some 2
  | _ => none

/-- What follows a version is one other, is told unchanged, and only goes forward. -/
structure Immutable (app : App) (client : String) (served : List Served) : Prop where
  once : ∀ before first between second after v w,
    served = before ++ first :: (between ++ second :: after) →
      first.added? app client = some v → second.added? app client = some w → v.parent ≠ w.parent
  absent : ∀ before get after parent, served = before ++ get :: after →
    get.Gets app client parent → Known app client before parent →
      (∀ v ∈ before.filterMap (·.added? app client), v.parent ≠ parent) →
        get.response.status = 404
  present : ∀ before add between get after v,
    served = before ++ add :: (between ++ get :: after) → add.added? app client = some v →
      get.Gets app client v.parent → ¬PrunedLater app client between →
        get.response.status = 200 ∧
          add.response.header? "x-version-id" = some v.id ∧
          get.response.header? "x-version-id" = some v.id ∧
          get.response.header? "x-parent-version-id" = some v.parent ∧
          get.response.sent = .bytes Http.segmentType add.request.body.bytes
  gone : ∀ before add between get after v,
    served = before ++ add :: (between ++ get :: after) → add.added? app client = some v →
      get.Gets app client v.parent → PrunedLater app client between → get.response.status = 410
  forward : ∀ before first between second after parent,
    served = before ++ first :: (between ++ second :: after) →
      first.Gets app client parent → second.Gets app client parent →
        Known app client before parent →
          ∃ m n, stage? first.response.status = some m ∧ stage? second.response.status = some n ∧
            m ≤ n

namespace Orderly

variable {stamp : Number → Option Number} {app : App} {served : List Served} {client : String}

theorem once (orderly : Orderly stamp app served) {before between after : List Served}
    {first second : Served} {v w : Version}
    (split : served = before ++ first :: (between ++ second :: after))
    (hv : first.added? app client = some v) (hw : second.added? app client = some w) :
    v.parent ≠ w.parent := by
  have sound := orderly.lawful.sound client
  subst split
  have earlier := orderly.index hv
  have later : before ++ first :: (between ++ second :: after) =
      (before ++ first :: between) ++ second :: after := by simp
  rw [later] at orderly earlier sound
  intro same
  have index := sound.index_unique (sound.linked _ v earlier)
    (same ▸ sound.linked _ w (orderly.index hw))
  rw [List.filterMap_append, List.length_append, List.filterMap_cons_some hv,
    List.length_cons] at index
  omega

theorem absent_status (orderly : Orderly stamp app served) {before after : List Served}
    {get : Served} {parent : String} (split : served = before ++ get :: after)
    (gets : get.Gets app client parent) (known : Known app client before parent)
    (none : ∀ v ∈ before.filterMap (·.added? app client), v.parent ≠ parent) :
    get.response.status = 404 := by
  obtain ⟨headers, response⟩ := (orderly.handled before get after split).child gets
  have earlier := orderly.of_isPrefix (split ▸ List.prefix_append ..)
  rw [response, earlier.absent known none]
  rfl

theorem present_answer (orderly : Orderly stamp app served) {before between after : List Served}
    {add get : Served} {v : Version}
    (split : served = before ++ add :: (between ++ get :: after))
    (added : add.added? app client = some v) (gets : get.Gets app client v.parent)
    (kept : ¬PrunedLater app client between) :
    get.response.status = 200 ∧
      add.response.header? "x-version-id" = some v.id ∧
      get.response.header? "x-version-id" = some v.id ∧
      get.response.header? "x-parent-version-id" = some v.parent ∧
      get.response.sent = .bytes Http.segmentType add.request.body.bytes := by
  have named := ((orderly.handled before add _ split).versions client).2 v added
  have reads : served = (before ++ add :: between) ++ get :: after := by
    rw [split, List.append_assoc, List.cons_append]
  obtain ⟨headers, response⟩ := (orderly.handled _ get after reads).child gets
  have earlier : Orderly stamp app (before ++ add :: between) :=
    orderly.of_isPrefix (reads ▸ List.prefix_append ..)
  rw [earlier.present added kept] at response
  rw [response, ← Served.bytes_of_added added]
  exact ⟨rfl, named, rfl, rfl, rfl⟩

theorem gone_status (orderly : Orderly stamp app served) {before between after : List Served}
    {add get : Served} {v : Version}
    (split : served = before ++ add :: (between ++ get :: after))
    (added : add.added? app client = some v) (gets : get.Gets app client v.parent)
    (pruned : PrunedLater app client between) : get.response.status = 410 := by
  have reads : served = (before ++ add :: between) ++ get :: after := by
    rw [split, List.append_assoc, List.cons_append]
  obtain ⟨headers, response⟩ := (orderly.handled _ get after reads).child gets
  have earlier : Orderly stamp app (before ++ add :: between) :=
    orderly.of_isPrefix (reads ▸ List.prefix_append ..)
  rw [response, earlier.gone added pruned]
  rfl

theorem stage_of_added (orderly : Orderly stamp app served) {before between after : List Served}
    {add get : Served} {v : Version}
    (split : served = before ++ add :: (between ++ get :: after))
    (added : add.added? app client = some v) (gets : get.Gets app client v.parent) :
    (¬PrunedLater app client between ∧ stage? get.response.status = some 1) ∨
      (PrunedLater app client between ∧ stage? get.response.status = some 2) := by
  by_cases pruned : PrunedLater app client between
  · rw [orderly.gone_status split added gets pruned]
    exact .inr ⟨pruned, rfl⟩
  · rw [(orderly.present_answer split added gets pruned).1]
    exact .inl ⟨pruned, rfl⟩

theorem absent_or_added (orderly : Orderly stamp app served) {before after : List Served}
    {get : Served} {parent : String} (split : served = before ++ get :: after)
    (gets : get.Gets app client parent) (known : Known app client before parent) :
    stage? get.response.status = some 0 ∨ ∃ older add newer v, before = older ++ add :: newer ∧
      add.added? app client = some v ∧ v.parent = parent := by
  by_cases none : ∀ v ∈ before.filterMap (·.added? app client), v.parent ≠ parent
  · rw [orderly.absent_status split gets known none]
    exact .inl rfl
  · push Not at none
    obtain ⟨v, hv, parent⟩ := none
    obtain ⟨add, hadd, added⟩ := List.mem_filterMap.mp hv
    obtain ⟨older, newer, rfl⟩ := List.append_of_mem hadd
    exact .inr ⟨older, add, newer, v, rfl, added, parent⟩

theorem forward (orderly : Orderly stamp app served) {before between after : List Served}
    {first second : Served} {parent : String}
    (split : served = before ++ first :: (between ++ second :: after))
    (hfirst : first.Gets app client parent) (hsecond : second.Gets app client parent)
    (known : Known app client before parent) :
    ∃ m n, stage? first.response.status = some m ∧ stage? second.response.status = some n ∧
      m ≤ n := by
  rcases orderly.absent_or_added split hfirst known with
    absent | ⟨older, add, newer, v, rfl, added, rfl⟩
  · have later : served = (before ++ first :: between) ++ second :: after := by
      rw [split, List.append_assoc, List.cons_append]
    rcases orderly.absent_or_added later hsecond (known.append _) with
      absent' | ⟨older, add, newer, v, hbefore, added, rfl⟩
    · exact ⟨0, 0, absent, absent', Nat.le_refl 0⟩
    · have reads : served = older ++ add :: (newer ++ second :: after) := by
        rw [later, hbefore, List.append_assoc, List.cons_append]
      rcases orderly.stage_of_added reads added hsecond with ⟨-, present⟩ | ⟨-, gone⟩
      · exact ⟨0, 1, absent, present, Nat.zero_le 1⟩
      · exact ⟨0, 2, absent, gone, Nat.zero_le 2⟩
  · have reads : served = older ++ add :: (newer ++ first :: (between ++ second :: after)) := by
      rw [split, List.append_assoc, List.cons_append]
    have reads' : served = older ++ add :: ((newer ++ first :: between) ++ second :: after) := by
      rw [reads, List.append_assoc, List.cons_append]
    rcases orderly.stage_of_added reads added hfirst with ⟨-, present⟩ | ⟨pruned, gone⟩
    · rcases orderly.stage_of_added reads' added hsecond with ⟨-, present'⟩ | ⟨-, gone'⟩
      · exact ⟨1, 1, present, present', Nat.le_refl 1⟩
      · exact ⟨1, 2, present, gone', Nat.le_succ 1⟩
    · rcases orderly.stage_of_added reads' added hsecond with ⟨kept, -⟩ | ⟨-, gone'⟩
      · exact absurd (pruned.append _) kept
      · exact ⟨2, 2, gone, gone', Nat.le_refl 2⟩

theorem immutable (orderly : Orderly stamp app served) (client : String) :
    Immutable app client served where
  once _ _ _ _ _ _ _ split := orderly.once split
  absent _ _ _ _ split := orderly.absent_status split
  present _ _ _ _ _ _ split := orderly.present_answer split
  gone _ _ _ _ _ _ split := orderly.gone_status split
  forward _ _ _ _ _ _ split := orderly.forward split

end Orderly

/-- **Versions never change.** Whatever requests are served one after the other on a new store in
which every version has an id of its own: plain requests are read as they are written, and what
follows a version of any client's is one other, is told unchanged, and only goes forward. -/
theorem versions_immutable {app : App} (creates : app.engine.createClients = true) {world : World}
    (new : world.backing.IsNew) (calm : world.misbehaviours = [])
    {requests : List (Number × Http.Request)}
    (fresh : FreshIds (historyOf (Service.run app world requests).served)) :
    app.Reads ∧ ∀ client, Immutable app client (Service.run app world requests).served := by
  obtain ⟨stamp, keeps⟩ := new.keeps
  have holds := Service.Holds.run creates ⟨calm, keeps⟩ fresh
  have orderly : Orderly stamp app _ := ⟨holds.keeps.store.lawful, holds.handled⟩
  exact ⟨app.reads, orderly.immutable⟩

/-- Two versions, a snapshot of the second, and a look at what followed the nil id. -/
def prunedRequests : List (Number × Http.Request) :=
  let headers : Http.Headers :=
    ⟨[("x-client-id", "11111111-1111-4111-8111-111111111111"), ("x-request-id", "r")]⟩
  [(0, ⟨"POST", "/v1/client/add-version/00000000-0000-0000-0000-000000000000", headers,
      .whole [1]⟩),
    (1, ⟨"POST", "/v1/client/add-version/00000000-0000-4000-8000-000000000001", headers,
      .whole [2]⟩),
    (2, ⟨"POST", "/v1/client/add-snapshot/00000000-0000-4000-8000-000000000002", headers,
      .whole [3]⟩),
    (3, ⟨"GET", "/v1/client/get-child-version/00000000-0000-0000-0000-000000000000", headers,
      .absent⟩)]

def pruningApp : App := { engine := { retention := .pruneOnSnapshot } }

def prunedService : Service :=
  Service.run pruningApp { backing := .memory .empty } prunedRequests

theorem versions_immutable_pruned :
    pruningApp.engine.createClients = true ∧ (Backing.memory .empty).IsNew ∧
      FreshIds (historyOf prunedService.served) ∧ pruningApp.Reads ∧
        ∀ client, Immutable pruningApp client prunedService.served := by
  have fresh : FreshIds (historyOf prunedService.served) := by decide +kernel
  exact ⟨rfl, .memory, fresh, versions_immutable rfl .memory rfl fresh⟩

end Scenario

end TaskSync
