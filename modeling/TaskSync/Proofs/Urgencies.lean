import TaskSync.Proofs.Bookkeeping
import TaskSync.Proofs.Roundings

/-!
# When a snapshot is due

How urgent a snapshot is, in whole numbers: by the versions committed since the
last snapshot, and by the days since then. The arithmetic of the server comes to
the same while its numbers are small enough to be exact.
-/

namespace TaskSync

abbrev Number.ofInt (i : Int) : Number := .finite i

namespace Urgency

/-- Low from the target on, and high from one and a half times it on. -/
def reached (value : Int) (target : Nat) : Urgency :=
  if (3 * target / 2 : Nat) ≤ value then high
  else if target ≤ value then low
  else none

/-- The urgency after so many versions since the last snapshot. If there is one, the days since it
was taken count too. -/
def due (versions days since : Nat) (taken : Option Int) (now : Int) : Urgency :=
  match taken with
  | .none => reached since versions
  | .some time => (reached since versions).max (reached ((now - time) / 86400000) days)

/-! ## More versions, more days -/

theorem rank_max (a b : Urgency) : (a.max b).rank = Nat.max a.rank b.rank := by
  cases a <;> cases b <;> rfl

theorem level_mono {value value' : Number} (h : value.le value' = true) (target : Number) :
    (level value target).rank ≤ (level value' target).rank := by
  unfold level
  split
  · next high => rw [if_pos (Number.le_trans high h)]
  · split
    · next low =>
      rw [if_pos (Number.le_trans low h)]
      split <;> decide
    · exact Nat.zero_le _

end Urgency

namespace SnapshotPolicy

theorem daysBetween_mono {now now' : Number} (h : now.le now' = true) (time : Rat) :
    (daysBetween (.finite time) now).le (daysBetween (.finite time) now') = true :=
  Number.floor_mono (Number.scale_mono (by norm_num) (Number.sub_mono h time))

/-- With more versions and at a later time the urgency is no lower, whatever is rounded. -/
theorem urgency_mono (policy : SnapshotPolicy) {count count' now now' : Number}
    (more : count.le count' = true) (later : now.le now' = true) (taken : Option Int) :
    (policy.urgency count (taken.map .ofInt) now).rank ≤
      (policy.urgency count' (taken.map .ofInt) now').rank := by
  have byCount := Urgency.level_mono more policy.versions
  unfold urgency
  cases taken with
  | none => exact byCount
  | some time =>
    have byAge := Urgency.level_mono (daysBetween_mono later time) policy.days
    rw [Option.map_some]
    dsimp only
    rw [Urgency.rank_max, Urgency.rank_max]
    exact max_le_max byCount byAge

end SnapshotPolicy

namespace Urgency

/-! ## Exact arithmetic -/

/-- Where the threshold of high is a number of its own, or is beyond what is compared with it. -/
def Exact (value : Int) (target : Nat) : Prop := 3 * target < 2 ^ 53 ∨ value < 2 ^ 52

theorem threshold_eq {target : Nat} (safe : 3 * target < 2 ^ 53) :
    (((Number.ofNat target).scale 3).scale (1 / 2)).floor = .ofInt (3 * target / 2 : Nat) := by
  have tripled : (Number.ofNat target).scale 3 = .finite (3 * target : Int) := by
    have := Number.round_intCast (i := 3 * target) (by omega)
    rw [← this, Number.ofNat, Number.scale]
    push_cast
    rw [mul_comm]
  have halved := Number.round_dyadic (i := 3 * target) (k := 1) (by omega) (by omega)
  have whole : ((3 * target : Int) / 2 ^ 1 : Rat).floor = (3 * target / 2 : Nat) := by
    have := Rat.floor_intCast_div_natCast (3 * target) 2
    rw [show ∀ q : Rat, q.floor = ⌊q⌋ from fun _ => rfl]
    push_cast at this ⊢
    simpa using this
  rw [pow_one] at halved whole
  rw [tripled, Number.scale, mul_one_div]
  push_cast at halved whole ⊢
  rw [halved, Number.floor, whole]

theorem threshold_far {target : Nat} (large : 2 ^ 53 ≤ 3 * target) {value : Int}
    (small : value < 2 ^ 52) :
    (((Number.ofNat target).scale 3).scale (1 / 2)).floor.le (.ofInt value) = false := by
  have above : (2 : Rat) ^ 53 ≤ target * 3 := by
    rw [mul_comm]
    exact_mod_cast large
  rcases Number.le_round above with tripled | ⟨r, tripled, hr⟩
  · rw [Number.ofNat, Number.scale, tripled]
    rfl
  · have above : (2 : Rat) ^ 52 ≤ r * (1 / 2) := by linarith
    rcases Number.le_round above with halved | ⟨r', halved, hr'⟩
    · rw [Number.ofNat, Number.scale, tripled, Number.scale, halved]
      rfl
    · have floor : (2 ^ 52 : Int) ≤ r'.floor := Rat.le_floor_iff.mpr (by exact_mod_cast hr')
      rw [Number.ofNat, Number.scale, tripled, Number.scale, halved, Number.floor, Number.le,
        decide_eq_false_iff_not, not_le]
      exact_mod_cast small.trans_le floor

theorem level_eq {value : Int} {target : Nat} (exact : Exact value target) :
    level (.ofInt value) (.ofNat target) = reached value target := by
  have low : (Number.ofNat target).le (.ofInt value) = decide ((target : Int) ≤ value) := by
    rw [Number.ofNat, Number.le, decide_eq_decide, ← Int.cast_natCast, Int.cast_le]
  have high : (((Number.ofNat target).scale 3).scale (1 / 2)).floor.le (.ofInt value) =
      decide (((3 * target / 2 : Nat) : Int) ≤ value) := by
    by_cases safe : 3 * target < 2 ^ 53
    · rw [threshold_eq safe, Number.le, decide_eq_decide, ← Int.cast_natCast, Int.cast_le]
    · have small := exact.resolve_left safe
      rw [threshold_far (not_lt.mp safe) small, eq_comm, decide_eq_false_iff_not]
      omega
  unfold level reached
  rw [high, low]
  simp only [decide_eq_true_eq]

end Urgency

namespace SnapshotPolicy

theorem daysBetween_eq {earlier later : Int} (near : (later - earlier).natAbs < 2 ^ 53) :
    daysBetween (.ofInt earlier) (.ofInt later) = .ofInt ((later - earlier) / 86400000) := by
  have elapsed : (Number.ofInt later).sub (.ofInt earlier) = .ofInt (later - earlier) := by
    refine Eq.trans ?_ (Number.round_intCast near)
    rw [Number.sub, Number.neg, Number.add, Int.cast_sub, sub_eq_add_neg]
  have days := Number.floor_round_div near (d := 86400000) (by decide) (by decide)
  unfold daysBetween
  rw [elapsed, Number.scale, mul_one_div]
  exact days

/-- Where the urgency is reckoned without rounding: the versions are not counted up to the half of
`2 ^ 53` for a target beyond a third of it, and the snapshot is less than `2 ^ 53` milliseconds
away. -/
structure Exact (versions since : Nat) (taken : Option Int) (now : Int) : Prop where
  count : Urgency.Exact since versions
  age : ∀ time ∈ taken, (now - time).natAbs < 2 ^ 53

variable {versions since : Nat}

theorem byCount_eq (exact : Urgency.Exact since versions) :
    Urgency.level (.ofNat since) (.ofNat versions) = Urgency.reached since versions := by
  rw [← Urgency.level_eq exact]
  rfl

theorem urgency_eq_due {taken : Option Int} {now : Int} (exact : Exact versions since taken now)
    (days : Nat) :
    urgency ⟨.ofNat versions, .ofNat days⟩ (.ofNat since) (taken.map .ofInt) (.ofInt now) =
      Urgency.due versions days since taken now := by
  have byCount := byCount_eq exact.count
  unfold urgency Urgency.due
  cases taken with
  | none => exact byCount
  | some time =>
    have near := exact.age time rfl
    have byAge : Urgency.Exact ((now - time) / 86400000) days := .inr (by omega)
    dsimp only [Option.map_some]
    rw [byCount, daysBetween_eq near, Urgency.level_eq byAge]

theorem urgency_eq_high (exact : Urgency.Exact since versions) (many : 3 * versions / 2 ≤ since)
    (days : Number) (taken : Option Number) (now : Number) :
    urgency ⟨.ofNat versions, days⟩ (.ofNat since) taken now = .high := by
  have byCount : Urgency.level (.ofNat since) (.ofNat versions) = .high := by
    rw [byCount_eq exact, Urgency.reached, if_pos (by omega)]
  unfold urgency
  cases taken with
  | none => exact byCount
  | some time =>
    dsimp only
    rw [byCount]
    cases Urgency.level (daysBetween time now) days <;> rfl

end SnapshotPolicy

/-! ## Since the last snapshot -/

namespace Store

/-- When the last snapshot of a client was taken, if there is one, and how many versions were
committed for the client since. -/
inductive Since (client : String) : History → Option Number → Nat → Prop where
  | never {h : History} (untaken : ∀ e ∈ h, e.snapshot? client = none) :
      Since client h none (h.countP (·.commits client))
  | taken (earlier : History) {e : Answered} {later : History} {snapshot : Snapshot}
      (accepted : e.snapshot? client = some snapshot)
      (last : ∀ e' ∈ later, e'.snapshot? client = none) :
      Since client (earlier ++ e :: later) (some e.time) (later.countP (·.commits client))

theorem exists_since (client : String) (h : History) :
    ∃ taken since, Since client h taken since := by
  induction h using List.reverseRecOn with
  | nil => exact ⟨_, _, .never (List.forall_mem_nil _)⟩
  | append_singleton h e ih =>
    cases he : e.snapshot? client with
    | some snapshot => exact ⟨_, _, .taken h he (List.forall_mem_nil _)⟩
    | none =>
      have last : ∀ e' ∈ [e], e'.snapshot? client = none := List.forall_mem_singleton.mpr he
      obtain ⟨_, _, untaken | ⟨earlier, accepted, untaken⟩⟩ := ih
      · exact ⟨_, _, .never (List.forall_mem_append.mpr ⟨untaken, last⟩)⟩
      · rw [List.append_assoc, List.cons_append]
        exact ⟨_, _, .taken earlier accepted (List.forall_mem_append.mpr ⟨untaken, last⟩)⟩

namespace Since

variable {client : String} {h : History} {taken : Option Number} {since : Nat}

theorem append (before : Since client h taken since) {later : History}
    (quiet : ∀ e ∈ later, e.snapshot? client = none) :
    Since client (h ++ later) taken (since + later.countP (·.commits client)) := by
  cases before with
  | never untaken =>
    rw [← List.countP_append]
    exact .never (List.forall_mem_append.mpr ⟨untaken, quiet⟩)
  | taken earlier accepted last =>
    rw [← List.countP_append, List.append_assoc, List.cons_append]
    exact .taken earlier accepted (List.forall_mem_append.mpr ⟨last, quiet⟩)

theorem mem {time : Number} (known : Since client h (some time) since) :
    ∃ e ∈ h, e.time = time := by
  cases known
  exact ⟨_, List.mem_append_right _ List.mem_cons_self, rfl⟩

theorem ledger (known : Since client h taken since) :
    (ledger client h).taken.map (·.time) = taken ∧
      (ledger client h).versions.length - ((ledger client h).taken.map (·.count)).getD 0 =
        since := by
  rw [ledger_commits]
  cases known with
  | never untaken =>
    have htaken := ledger_taken_append untaken []
    rw [List.nil_append] at htaken
    simp [htaken]
  | taken earlier accepted last =>
    rename_i e later snapshot
    have split : earlier ++ e :: later = (earlier ++ [e]) ++ later := by simp
    have htaken : (Store.ledger client (earlier ++ e :: later)).taken =
        some ⟨snapshot.version, snapshot.data, e.time, earlier.countP (·.commits client)⟩ := by
      rw [split, ledger_taken_append last, ledger_taken_snoc, accepted]
      rfl
    obtain ⟨prune, record, he⟩ := Answered.snapshot?_eq_some accepted
    have quiet : e.commits client = false := by
      rw [he]
      rfl
    rw [htaken, List.countP_append, List.countP_cons, quiet]
    simp

theorem of_ledger (htaken : (Store.ledger client h).taken.map (·.time) = taken)
    (hsince : (Store.ledger client h).versions.length -
      ((Store.ledger client h).taken.map (·.count)).getD 0 = since) :
    Since client h taken since := by
  obtain ⟨taken', since', known⟩ := exists_since client h
  obtain ⟨rfl, rfl⟩ := known.ledger
  obtain rfl := htaken
  obtain rfl := hsince
  exact known

instance : Decidable (Since client h taken since) :=
  decidable_of_iff _ ⟨fun same => of_ledger same.1 same.2, ledger⟩

theorem unique {taken' : Option Number} {since' : Nat} (known : Since client h taken since)
    (known' : Since client h taken' since') : taken = taken' ∧ since = since' := by
  obtain ⟨rfl, rfl⟩ := known.ledger
  obtain ⟨rfl, rfl⟩ := known'.ledger
  exact ⟨rfl, rfl⟩

end Since

end Store

namespace Scenario

open Store

theorem record_since (b : Backing) {client : String} {h : History} {taken : Option Number}
    {since : Nat} (known : Since client h taken since)
    (clock : ∀ time ∈ taken, time.isNaN = false) :
    ((ledger client h).record b.stamp client).sinceSnapshot = since ∧
      ((ledger client h).record b.stamp client).snapshotTime = taken := by
  obtain ⟨rfl, rfl⟩ := known.ledger
  refine ⟨rfl, ?_⟩
  unfold Ledger.record
  cases htaken : (ledger client h).taken with
  | none => rfl
  | some t => exact b.stamp_of_clock (clock t.time (by rw [htaken]; rfl))

theorem Recorded.Tracks.committed {r : Recorded} (tracks : r.Tracks) {time : Number}
    {client parent version : String} {segment : Bytes} {record : Client}
    (reply : (r.store.call 0 time (.addVersion client parent version segment)).1 =
      .ok (.committed record)) :
    record = (ledger client (r.history ++
      [⟨time, .addVersion client parent version segment, .ok (.committed record)⟩])).record
        r.store.stamp client := by
  have goes := (tracks.calm.answers time (.addVersion client parent version segment)).moves.goes
  rw [tracks.rows, reply] at goes
  obtain ⟨noted, -⟩ := (tracks.tallied client).goes goes
  generalize (r.store.call 0 time (.addVersion client parent version segment)).2.row? _ = after
    at goes noted
  have own : ledger client (r.history ++ [_]) = (ledger client r.history).note _ :=
    ledger_snoc_own r.history
      (e := ⟨time, .addVersion client parent version segment, .ok (.committed record)⟩) rfl
  rw [own]
  cases goes with
  | committed client version segment known =>
    exact congrArg ClientRow.record (Ledger.row?_eq_some noted.symm).2

end Scenario

end TaskSync
