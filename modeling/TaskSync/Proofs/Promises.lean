import TaskSync.Proofs.Turns

/-!
# What requests promise

What is left of a request keeps to its command, whatever others do between its
turns. A version is added once, under an id that the request has drawn itself.
What is answered about a version was so when the request read the client, or when
it read the version.
-/

namespace TaskSync

open Store

namespace Store.Ledger

/-- What follows a version by one ledger alone. -/
def childAnswer (l : Ledger) (parent : String) : ChildAnswer :=
  match l.child? parent with
  | some version => .found version
  | none => if l.head = parent ∨ l.head = nilId then .upToDate else .gone

variable {l l' : Ledger}

theorem childAnswer_of_some {parent : String} {v : Version} (h : l.child? parent = some v) :
    l.childAnswer parent = .found v := by
  unfold childAnswer
  rw [h]

theorem childAnswer_of_none {parent : String} (h : l.child? parent = none) :
    l.childAnswer parent =
      if l.head = parent ∨ l.head = nilId then .upToDate else .gone := by
  unfold childAnswer
  rw [h]

theorem childAnswer_head (sound : l.Sound) : l.childAnswer l.head = .upToDate := by
  rw [childAnswer_of_none sound.child?_head, if_pos (.inl rfl)]

theorem childAnswer_of_head_nil (sound : l.Sound) (h : l.head = nilId) (parent : String) :
    l.childAnswer parent = .upToDate := by
  have hv := sound.head_eq_nil_iff.mp h
  have hnone : l.child? parent = none := by simp [child?, kept, hv]
  rw [childAnswer_of_none hnone, if_pos (.inr h)]

theorem childAnswer_at (sound : l.Sound) {i : Nat} {id : String} (hi : l.ids[i]? = some id)
    (hk : l.pruned ≤ i + 1) :
    l.childAnswer id = match l.versions[i]? with
      | some version => .found version
      | none => .upToDate := by
  have hchild := sound.child?_at hi
  rw [if_pos hk] at hchild
  cases hv : l.versions[i]? with
  | some version =>
    rw [hv] at hchild
    exact childAnswer_of_some hchild
  | none =>
    have hlast : i = l.versions.length := by
      have hlt := (List.getElem?_eq_some_iff.mp hi).1
      have hle := List.getElem?_eq_none_iff.mp hv
      rw [length_ids] at hlt
      omega
    subst hlast
    obtain rfl := Option.some.inj (l.ids_length.symm.trans hi)
    exact childAnswer_head sound

theorem childAnswer_pruned (sound : l.Sound) {i : Nat} {v : Version}
    (hv : l.versions[i]? = some v) (hp : i + 1 < l.pruned) : l.childAnswer v.parent = .gone := by
  have hchild := sound.child?_at (sound.linked i v hv)
  rw [if_neg (Nat.not_le.mpr hp)] at hchild
  have hmem := List.mem_of_getElem? hv
  rw [childAnswer_of_none hchild, if_neg]
  rintro (hhead | hnil)
  · exact sound.parent_ne_head hmem hhead.symm
  · exact List.ne_nil_of_mem hmem (sound.head_eq_nil_iff.mp hnil)

/-- An answer put together from the head that was there first and a version that is missing later
is the answer of one moment or the other. -/
theorem childAnswer_between (sound : l.Sound) (sound' : l'.Sound)
    (hp : l.versions <+: l'.versions) {parent : String} (hnone : l'.child? parent = none) :
    (if l.head = parent ∨ l.head = nilId then ChildAnswer.upToDate else .gone) =
        l.childAnswer parent ∨
      (if l.head = parent ∨ l.head = nilId then ChildAnswer.upToDate else .gone) =
        l'.childAnswer parent := by
  by_cases hparent : l.head = parent
  · subst hparent
    rw [childAnswer_head sound, if_pos (.inl rfl)]
    exact .inl rfl
  · by_cases hnil : l.head = nilId
    · rw [childAnswer_of_head_nil sound hnil, if_pos (.inr hnil)]
      exact .inl rfl
    · have hnil' : l'.head ≠ nilId := by
        intro h
        have hempty := sound'.head_eq_nil_iff.mp h
        rw [hempty] at hp
        exact hnil (sound.head_eq_nil_iff.mpr (List.prefix_nil.mp hp))
      rw [if_neg (not_or.mpr ⟨hparent, hnil⟩)]
      by_cases hhead : l'.head = parent
      · -- The parent became the head in between, so that it was unknown before.
        have hunknown : l.child? parent = none := by
          rw [Option.eq_none_iff_forall_ne_some]
          intro v hv
          obtain ⟨hk, hvp⟩ := sound.child?_eq_some_iff.mp hv
          exact sound'.parent_ne_head (hp.subset (kept_subset hk)) (hvp.trans hhead.symm)
        rw [childAnswer_of_none hunknown, if_neg (not_or.mpr ⟨hparent, hnil⟩)]
        exact .inl rfl
      · rw [childAnswer_of_none hnone, if_neg (not_or.mpr ⟨hhead, hnil'⟩)]
        exact .inr rfl

theorem answer_of_created (created : l.created = true) {c : Call}
    (other : ∀ client, c ≠ .createClient client) (stamp : Number → Option Number) (time : Number) :
    ∃ value, l.answer stamp time c = .ok value := by
  cases c with
  | getClient | getVersionByParent | getSnapshot => exact ⟨_, rfl⟩
  | createClient client => exact absurd rfl (other client)
  | addVersion | addSnapshot =>
    simp only [answer, if_pos created]
    split <;> exact ⟨_, rfl⟩

end Store.Ledger

/-! ## Finding the client in a history -/

def Store.Answered.placed (e : Answered) : Placed := ⟨e.call, e.reply⟩

namespace Scenario

open Http (Command)

section

variable {stamp : Number → Option Number} {h : History} {client : String} {record : Client}
  {creates : Bool} {calls : List Placed}

/-- A call whose reply tells the client's record. -/
inductive Tells (client : String) (record : Client) : Placed → Prop where
  | read : Tells client record ⟨.getClient client, .ok (some record)⟩
  | created : Tells client record ⟨.createClient client, .ok record⟩

theorem Seeks.tells (seeks : Seeks creates client calls (.ok (some record))) :
    ∃ before p, calls = before ++ [p] ∧ Tells client record p := by
  cases seeks with
  | known => exact ⟨[], _, rfl, .read⟩
  | created => exact ⟨[_], _, rfl, .created⟩
  | raced => exact ⟨[_, _], _, rfl, .read⟩

theorem Tells.ensures {e : Answered} (tells : Tells client record e.placed)
    (lawful : Lawful stamp (h ++ [e])) :
    record.head = (ledger client h).head ∧ (ledger client (h ++ [e])).created = true := by
  obtain ⟨before, -, answer⟩ := lawful.last
  obtain ⟨time, c, reply⟩ := e
  cases tells with
  | read =>
    simp only [Ledger.answer, Call.client, Except.ok.injEq] at answer
    obtain ⟨created, same⟩ := Option.ite_none_right_eq_some.mp answer.symm
    obtain rfl := Option.some.inj same
    exact ⟨rfl, ledger_created_mono (List.prefix_append ..) created⟩
  | created =>
    refine ⟨?_, ledger_created_snoc ..⟩
    cases known : (ledger client h).created with
    | true => simp [Ledger.answer, Call.client, known] at answer
    | false =>
      simp only [Ledger.answer, Call.client, known, Bool.false_eq_true, if_false,
        Except.ok.injEq] at answer
      rw [answer, (before.sound client).uncreated known]
      rfl

theorem answered {h' : History} (lawful : Lawful stamp (h ++ h')) {c : Call}
    {reply : Except Failure c.Reply} (made : ⟨c, reply⟩ ∈ h'.map (·.placed)) :
    ∃ before time, h <+: before ∧ before ++ [⟨time, c, reply⟩] <+: h ++ h' ∧
      reply = (ledger c.client before).answer stamp time c := by
  obtain ⟨⟨time, _, _⟩, he, ⟨rfl⟩⟩ := List.mem_map.mp made
  obtain ⟨before, after, rfl⟩ := List.append_of_mem he
  rw [← List.append_assoc] at lawful ⊢
  exact ⟨h ++ before, time, List.prefix_append .., ⟨after, by simp⟩, lawful.reply⟩

theorem Seeks.not_failed {failure : Failure} (seeks : Seeks creates client calls (.error failure))
    (lawful : Lawful stamp h) (among : calls.Sublist (h.map (·.placed))) : False := by
  have read {failure : Failure} (made : ⟨.getClient client, .error failure⟩ ∈ h.map (·.placed)) :
      False := by
    obtain ⟨before, time, -, -, reply⟩ := answered (h := []) lawful made
    cases reply
  cases seeks with
  | unread => exact read (among.subset List.mem_cons_self)
  | unreadAgain on id =>
    have made : ⟨.getClient client, .error failure⟩ ∈ h.map (·.placed) := among.subset (by simp)
    exact read made
  | uncreated on other =>
    obtain ⟨before, time, -, -, reply⟩ := answered (h := []) lawful
      (among.subset (List.mem_cons_of_mem _ List.mem_cons_self))
    simp only [Ledger.answer] at reply
    split at reply
    · exact other client (Except.error.inj reply)
    · cases reply
  | vanished on id =>
    obtain ⟨first, rest, split, refused, missing⟩ :=
      List.cons_sublist_iff.mp ((List.sublist_cons_self ..).trans among)
    obtain ⟨h₁, h₂, rfl, rfl, rfl⟩ := List.map_eq_append_iff.mp split
    have earlier : Lawful stamp h₁ := lawful.of_isPrefix (List.prefix_append ..)
    obtain ⟨known, time, -, prior, refusal⟩ := answered (h := []) earlier refused
    obtain ⟨later, time', since, -, none⟩ := answered lawful (List.singleton_sublist.mp missing)
    -- Nobody deletes the client again.
    have created : (ledger client known).created = true := by
      by_contra new
      simp [Ledger.answer, Call.client, new] at refusal
    have still : (ledger client later).created = true :=
      ledger_created_mono (((List.prefix_append ..).trans prior).trans since) created
    simp [Ledger.answer, Call.client, still] at none

end

/-! ## The calls of one request -/

def Line.placed? (i : Nat) : Line → Option Placed
  | ⟨j, .called e⟩ => if j = i then some e.placed else none
  | ⟨_, .drew _⟩ => none

namespace Transcript

def placed (i : Nat) (t : Transcript) : List Placed := t.filterMap (Line.placed? i)

variable {i : Nat} {t : Transcript}

theorem placed_append (i : Nat) (t s : Transcript) :
    placed i (t ++ s) = placed i t ++ placed i s := List.filterMap_append

theorem mem_placed {e : Answered} (line : ⟨i, .called e⟩ ∈ t) : e.placed ∈ t.placed i :=
  List.mem_filterMap.mpr ⟨_, line, if_pos rfl⟩

theorem placed_split {earlier later : List Placed} {p : Placed}
    (split : t.placed i = earlier ++ p :: later) :
    ∃ before time after, t = before ++ ⟨i, .called ⟨time, p.call, p.reply⟩⟩ :: after ∧
      placed i before = earlier := by
  obtain ⟨first, rest, rfl, rfl, more⟩ := List.filterMap_eq_append_iff.mp split
  obtain ⟨others, ⟨j, deed⟩, after, rfl, silent, own, -⟩ := List.filterMap_eq_cons_iff.mp more
  cases deed with
  | drew id => cases own
  | called e =>
    obtain ⟨rfl, same⟩ := Option.ite_none_right_eq_some.mp own
    obtain rfl := Option.some.inj same
    refine ⟨first ++ others, e.time, after, (List.append_assoc ..).symm, ?_⟩
    rw [placed_append, placed, placed, List.filterMap_eq_nil_iff.mpr silent, List.append_nil]

theorem placed_sublist (i : Nat) (t : Transcript) :
    (t.placed i).Sublist (t.history.map (·.placed)) := by
  induction t with
  | nil => exact .slnil
  | cons line t ih =>
    obtain ⟨j, deed⟩ := line
    cases deed with
    | drew id => exact ih
    | called e =>
      by_cases own : j = i
      · subst own
        simpa [placed, Line.placed?] using ih
      · simpa [placed, Line.placed?, own] using ih.cons e.placed

end Transcript

/-- A request has not called for a version to be added. -/
def NoAppend (i : Nat) (t : Transcript) : Prop :=
  ∀ e, ⟨i, .called e⟩ ∈ t → methodOf e.call ≠ .addVersion

/-- The calls that a request may make. It adds the version that it was told to add, once and under
an id that it has drawn. No snapshot is stored for the nil id. -/
def Rule (i : Nat) (command : Http.Command) (t : Transcript) : Call → Prop
  | .addVersion client parent version segment =>
    command = .addVersion client parent segment ∧ ⟨i, .drew version⟩ ∈ t ∧ NoAppend i t
  | .addSnapshot _ version _ _ => version ≠ nilId
  | .getClient _ | .createClient _ | .getVersionByParent .. | .getSnapshot _ => True

theorem Makes.rule {engine : Engine} {command : Command} {said : List Told} {c : Call}
    (makes : Makes engine command said c) {i : Nat} {t : Transcript}
    (calls : t.placed i = placed said)
    (draws : ∀ id, ⟨.freshId, id⟩ ∈ said → ⟨i, .drew id⟩ ∈ t) : Rule i command t c := by
  cases makes with
  | reads | creates => trivial
  | own own seeks drew =>
    cases own with
    | addVersion client parent version segment =>
      refine ⟨rfl, draws version (drew _ _ _ _ rfl), fun ⟨time, c, reply⟩ line append => ?_⟩
      have sought := Transcript.mem_placed line
      rw [calls] at sought
      have looks := seeks.looks _ sought
      cases c with
      | addVersion => cases looks
      | getClient | createClient | getVersionByParent | addSnapshot | getSnapshot => cases append
    | addSnapshot client filled data => exact filled
    | getChildVersion | getSnapshot => trivial

/-- What stands behind the answer to a command. -/
inductive Justified (i : Nat) (t : Transcript) : Http.Command → Value → Prop where
  | added {client parent version : String} {segment : Bytes} {urgency : Urgency} {time : Number}
      {record : Client}
      (line : ⟨i, .called ⟨time, .addVersion client parent version segment,
        .ok (.committed record)⟩⟩ ∈ t) :
      Justified i t (.addVersion client parent segment) (.versionAdded (.added version urgency))
  | conflict {client parent version head : String} {segment : Bytes} {time : Number}
      (line : ⟨i, .called ⟨time, .addVersion client parent version segment,
        .ok (.conflict head)⟩⟩ ∈ t) :
      Justified i t (.addVersion client parent segment) (.versionAdded (.conflict head))
  | child {client parent : String} {answer : ChildAnswer} {earlier later : Transcript}
      {e : Answered} (line : t = earlier ++ ⟨i, .called e⟩ :: later)
      (then_so : answer = (ledger client earlier.history).childAnswer parent) :
      Justified i t (.getChildVersion client parent) (.child answer)
  | snapshotAdded {client version : String} {data : Bytes} {answer : AddSnapshotAnswer} :
      Justified i t (.addSnapshot client version data) (.snapshotAdded answer)
  | snapshotFound {client : String} {snapshot : Option Snapshot} :
      Justified i t (.getSnapshot client) (.snapshotFound snapshot)

section

variable {stamp : Number → Option Number} {i : Nat} {engine : Engine} {command : Command}
  {t : Transcript}

/-- What a request knows once it has the client's record. -/
structure Ensured (i : Nat) (client : String) (record : Client) (t : Transcript) : Prop where
  created : (ledger client t.history).created = true
  /-- The head was read in a call of the request. -/
  head : ∃ (earlier : Transcript) (e : Answered) (later : Transcript),
    t = earlier ++ ⟨i, .called e⟩ :: later ∧ record.head = (ledger client earlier.history).head

theorem Seeks.ensured {creates : Bool} {client : String} {record : Client}
    (seeks : Seeks creates client (t.placed i) (.ok (some record)))
    (lawful : Lawful stamp t.history) : Ensured i client record t := by
  obtain ⟨sought, p, split, tells⟩ := seeks.tells
  obtain ⟨before, time, after, rfl, -⟩ := Transcript.placed_split split
  have grows : before.history ++ [⟨time, p.call, p.reply⟩] <+:
      Transcript.history (before ++ ⟨i, .called ⟨time, p.call, p.reply⟩⟩ :: after) := by
    simp
  obtain ⟨head, created⟩ := Tells.ensures (e := ⟨time, p.call, p.reply⟩) tells
    (lawful.of_isPrefix grows)
  exact ⟨ledger_created_mono grows created, before, _, after, rfl, head⟩

theorem Own.called {sought : List Placed} {record : Client} {c : Call}
    {reply : Except Failure c.Reply} (own : Own engine command c)
    (seeks : Seeks (engine.enrols command) command.client sought (.ok (some record)))
    (made : t.placed i = sought ++ [⟨c, reply⟩]) (lawful : Lawful stamp t.history) :
    ∃ before time after, t = before ++ ⟨i, .called ⟨time, c, reply⟩⟩ :: after ∧
      Lawful stamp before.history ∧ Ensured i c.client record before ∧
      reply = (ledger c.client before.history).answer stamp time c := by
  obtain ⟨before, time, after, rfl, rfl⟩ := Transcript.placed_split made
  have grows : before.history <+:
      Transcript.history (before ++ ⟨i, .called ⟨time, c, reply⟩⟩ :: after) := by
    simp
  rw [Transcript.history_append] at lawful
  have earlier := lawful.of_isPrefix (List.prefix_append ..)
  have same := own.about
  exact ⟨before, time, after, rfl, earlier, same ▸ seeks.ensured earlier, lawful.reply⟩

theorem Ensured.child {client parent : String} {record : Client}
    (ensured : Ensured i client record t) (lawful : Lawful stamp t.history)
    (missing : (ledger client t.history).child? parent = none) (e : Answered) (later : Transcript) :
    Justified i (t ++ ⟨i, .called e⟩ :: later) (.getChildVersion client parent)
      (.child (if record.head = parent ∨ record.head = nilId then .upToDate else .gone)) := by
  obtain ⟨-, earlier, e', between, rfl, head⟩ := ensured
  have grows : earlier.history <+: Transcript.history (earlier ++ ⟨i, .called e'⟩ :: between) := by
    simp
  have sound := (lawful.of_isPrefix grows).sound client
  have versions := ledger_versions_grow client grows
  rw [head]
  rcases Ledger.childAnswer_between sound (lawful.sound client) versions missing with first | second
  · exact .child (by rw [List.append_assoc, List.cons_append]) first
  · exact .child rfl second

theorem Attempts.refused {failure : Failure}
    (attempts : Attempts engine command (t.placed i) (.error failure))
    (lawful : Lawful stamp t.history) : engine.createClients = false := by
  generalize made : t.placed i = calls at attempts
  cases attempts with
  | halted seeks =>
    subst made
    exact (seeks.not_failed lawful (t.placed_sublist i)).elim
  | unknown seeks refused => exact refused
  | @failed _ _ seeks c own =>
    obtain ⟨before, time, after, -, -, ensured, answer⟩ := own.called seeks made lawful
    obtain ⟨value, answered⟩ := Ledger.answer_of_created ensured.created own.not_create stamp time
    cases answer.trans answered

theorem Attempts.justified {value : Value}
    (attempts : Attempts engine command (t.placed i) (.ok value))
    (lawful : Lawful stamp t.history) : Justified i t command value := by
  generalize made : t.placed i = calls at attempts
  cases attempts with
  | nothing seeks reads =>
    rw [reads]
    exact .snapshotFound
  | ofNothing seeks empty =>
    rw [empty]
    exact .snapshotAdded
  | answered seeks own gives =>
    obtain ⟨before, time, after, rfl, earlier, ensured, answer⟩ := own.called seeks made lawful
    cases own with
    | addVersion client parent version segment =>
      cases gives with
      | added => exact .added (List.mem_append_right _ List.mem_cons_self)
      | conflict => exact .conflict (List.mem_append_right _ List.mem_cons_self)
    | getChildVersion client parent =>
      have child := Except.ok.inj answer.symm
      cases gives with
      | found => exact .child rfl (Ledger.childAnswer_of_some child).symm
      | upToDate _ newest =>
        have told := ensured.child earlier child ⟨time, .getVersionByParent client parent, .ok none⟩
          after
        rwa [if_pos newest] at told
      | gone _ older =>
        have told := ensured.child earlier child ⟨time, .getVersionByParent client parent, .ok none⟩
          after
        rwa [if_neg older] at told
    | addSnapshot => cases gives <;> exact .snapshotAdded
    | getSnapshot =>
      cases gives
      exact .snapshotFound

end

end Scenario

end TaskSync
