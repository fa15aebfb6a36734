import Mathlib.Algebra.Order.Field.Power
import Mathlib.Algebra.Order.Ring.Rat
import Mathlib.Data.Rat.Floor
import Mathlib.Tactic.FieldSimp
import Mathlib.Tactic.Linarith
import Mathlib.Tactic.NormNum
import Mathlib.Tactic.Positivity
import Mathlib.Tactic.Ring
import TaskSync.Number.Basic

/-!
# What rounding does

Rounding moves a fraction by half a step at most, and not at all if its
significand is short enough. So the whole part of a quotient comes out right
for whole numbers below `2 ^ 53`.
-/

namespace TaskSync.Number

variable {p q : Rat}

/-! ## Steps -/

theorem abs_eq (q : Rat) : q.abs = |q| := by
  unfold Rat.abs
  split
  · next nonneg => rw [abs_of_nonneg nonneg]
  · next negative => rw [abs_of_neg (not_le.mp negative)]

theorem log2_spec {n : Nat} (pos : n ≠ 0) :
    (2 : Rat) ^ (n.log2 : Int) ≤ n ∧ (n : Rat) < 2 ^ (n.log2 + 1 : Int) := by
  have below := Nat.log2_self_le pos
  have above := Nat.lt_log2_self (n := n)
  exact ⟨by exact_mod_cast below, by exact_mod_cast above⟩

theorem binaryExponent_spec (pos : 0 < q) :
    (2 : Rat) ^ binaryExponent q ≤ q ∧ q < 2 ^ (binaryExponent q + 1) := by
  obtain ⟨numLow, numHigh⟩ := log2_spec (Int.natAbs_ne_zero.mpr (Rat.num_ne_zero.mpr pos.ne'))
  obtain ⟨denLow, denHigh⟩ := log2_spec q.den_ne_zero
  have den : (0 : Rat) < q.den := by exact_mod_cast q.den_pos
  have num : (q.num.natAbs : Rat) = q * q.den := by
    have same := Int.natAbs_of_nonneg (Rat.num_pos.mpr pos).le
    rw [Rat.mul_den_eq_num, ← same]
    simp
  rw [num] at numLow numHigh
  have low : (2 : Rat) ^ ((q.num.natAbs.log2 : Int) - q.den.log2 - 1) ≤ q := by
    rw [sub_sub, zpow_sub₀ two_ne_zero, div_le_iff₀ (by positivity)]
    exact numLow.trans (mul_le_mul_of_nonneg_left denHigh.le pos.le)
  have high : q < 2 ^ ((q.num.natAbs.log2 : Int) - q.den.log2 + 1) := by
    rw [sub_add_eq_add_sub, zpow_sub₀ two_ne_zero, lt_div_iff₀ (by positivity)]
    exact (mul_le_mul_of_nonneg_left denLow pos.le).trans_lt numHigh
  unfold binaryExponent
  dsimp only
  split
  · next below => exact ⟨below, high⟩
  · next above => exact ⟨low, by simpa using above⟩

theorem binaryExponent_lt {k : Int} (pos : 0 < q) (below : q < 2 ^ k) : binaryExponent q < k :=
  (zpow_lt_zpow_iff_right₀ one_lt_two).mp ((binaryExponent_spec pos).1.trans_lt below)

theorem le_binaryExponent {k : Int} (pos : 0 < q) (above : (2 : Rat) ^ k ≤ q) :
    k ≤ binaryExponent q :=
  Int.lt_add_one_iff.mp
    ((zpow_lt_zpow_iff_right₀ one_lt_two).mp (above.trans_lt (binaryExponent_spec pos).2))

theorem spacing_pos (q : Rat) : 0 < spacing q := zpow_pos two_pos _

theorem spacing_le {k : Int} (filled : q ≠ 0) (below : |q| < 2 ^ k) :
    spacing q ≤ 2 ^ max (k - 53) (-1074) := by
  have exponent := binaryExponent_lt (abs_pos.mpr filled) below
  unfold spacing
  rw [abs_eq]
  exact zpow_le_zpow_right₀ one_le_two (max_le_max_right _ (by omega))

/-! ## Whole numbers of steps -/

theorem floor_eq_iff {z : Int} : q.floor = z ↔ (z : Rat) ≤ q ∧ q < z + 1 := by
  rw [show q.floor = ⌊q⌋ from rfl, Int.floor_eq_iff]

theorem nearestEven_spec (q : Rat) :
    q.floor ≤ nearestEven q ∧ |(nearestEven q : Rat) - q| ≤ 1 / 2 := by
  obtain ⟨low, high⟩ := floor_eq_iff.mp (Eq.refl q.floor)
  unfold nearestEven
  dsimp only
  generalize q.floor = below at low high ⊢
  split
  · next small =>
    refine ⟨Int.le_refl _, ?_⟩
    rw [abs_le]
    constructor <;> linarith
  · next half =>
    rw [not_lt] at half
    have up : below ≤ below + 1 ∧ |((below + 1 : Int) : Rat) - q| ≤ 1 / 2 := by
      refine ⟨by omega, ?_⟩
      push_cast
      rw [abs_le]
      constructor <;> linarith
    split
    · exact up
    · next down =>
      rw [not_lt] at down
      split
      · refine ⟨Int.le_refl _, ?_⟩
        rw [abs_le]
        constructor <;> linarith
      · exact up

theorem nearestEven_intCast (i : Int) : nearestEven i = i := by
  simp [nearestEven]

/-- Of two fractions in order the nearest integers are in order, for the middle between two integers
is the same number to both of them. -/
theorem nearestEven_mono (h : p ≤ q) : nearestEven p ≤ nearestEven q := by
  by_contra less
  have apart : (nearestEven q : Rat) + 1 ≤ nearestEven p := by exact_mod_cast not_le.mp less
  have nearP := (abs_le.mp (nearestEven_spec p).2).2
  have nearQ := (abs_le.mp (nearestEven_spec q).2).1
  obtain rfl : p = q := by linarith
  omega

/-- The multiple of a step that is nearest to a fraction. -/
def snap (step q : Rat) : Rat := nearestEven (q / step) * step

section

variable {step : Rat} (pos : 0 < step)
include pos

theorem snap_mono (h : p ≤ q) : snap step p ≤ snap step q := by
  have steps : p / step ≤ q / step := div_le_div_of_nonneg_right h pos.le
  exact mul_le_mul_of_nonneg_right (by exact_mod_cast nearestEven_mono steps) pos.le

theorem snap_mul (i : Int) : snap step (i * step) = i * step := by
  unfold snap
  rw [mul_div_cancel_right₀ _ pos.ne', nearestEven_intCast]

theorem snap_near (q : Rat) : |snap step q - q| ≤ step / 2 := by
  have split : snap step q - q = (nearestEven (q / step) - q / step) * step := by
    unfold snap
    field_simp
  rw [split, abs_mul, abs_of_pos pos]
  linarith [mul_le_mul_of_nonneg_right (nearestEven_spec (q / step)).2 pos.le]

end

theorem snap_zero : snap (spacing 0) 0 = 0 := by
  simpa using snap_mul (spacing_pos 0) 0

/-! ## Rounding -/

theorem round_eq (q : Rat) : round q =
    if |snap (spacing q) q| < 2 ^ (1024 : Nat) then finite (snap (spacing q) q)
    else infinity (q < 0) := by
  by_cases zero : q = 0
  · have small : |(0 : Rat)| < 2 ^ (1024 : Nat) := by
      rw [abs_zero]
      exact pow_pos two_pos _
    rw [zero, snap_zero, if_pos small, round, if_pos rfl]
  · unfold round snap
    rw [if_neg zero]
    dsimp only
    rw [abs_eq]

/-- Below `2 ^ 53` a fraction is rounded by half a step at most. -/
theorem round_near (filled : q ≠ 0) (small : |q| < 2 ^ (53 : Int)) :
    ∃ r, round q = finite r ∧ |r - q| ≤ spacing q / 2 := by
  have near := snap_near (spacing_pos q) q
  have one : spacing q ≤ 1 := spacing_le filled small
  have far := abs_sub_abs_le_abs_sub (snap (spacing q) q) q
  have below : |snap (spacing q) q| < 2 ^ (1024 : Nat) := by
    calc |snap (spacing q) q| ≤ 2 ^ (53 : Int) + 1 := by linarith
      _ ≤ 2 ^ (54 : Nat) := by norm_num
      _ < 2 ^ (1024 : Nat) := pow_lt_pow_right₀ one_lt_two (by omega)
  exact ⟨_, by rw [round_eq, if_pos below], near⟩

theorem round_dyadic {i : Int} {k : Nat} (short : i.natAbs < 2 ^ 53) (hk : k ≤ 1074) :
    round (i / 2 ^ k) = finite (i / 2 ^ k) := by
  by_cases zero : i = 0
  · subst zero
    simp [round]
  have short : |(i : Rat)| < 2 ^ (53 : Int) := by
    rw [← Int.cast_abs, Int.abs_eq_natAbs]
    exact_mod_cast short
  have filled : (i : Rat) / 2 ^ k ≠ 0 := by positivity
  have size : |(i : Rat) / 2 ^ k| < 2 ^ (53 - k : Int) := by
    have pos : (0 : Rat) < 2 ^ k := by positivity
    rw [abs_div, abs_of_pos pos, zpow_sub₀ two_ne_zero, zpow_natCast]
    gcongr
  -- The step is a power of two that divides `1 / 2 ^ k`.
  obtain ⟨n, hn⟩ : ∃ n : Nat, max (binaryExponent |(i : Rat) / 2 ^ k| - 52) (-1074) = -(k + n) := by
    have exponent := binaryExponent_lt (abs_pos.mpr filled) size
    exact ⟨(-(k : Int) - max (binaryExponent |(i : Rat) / 2 ^ k| - 52) (-1074)).toNat, by omega⟩
  have step : spacing (i / 2 ^ k) = 1 / 2 ^ (k + n) := by
    unfold spacing
    rw [abs_eq, hn, zpow_neg, one_div]
    exact_mod_cast rfl
  have steps : (i : Rat) / 2 ^ k = (i * 2 ^ n : Int) * spacing (i / 2 ^ k) := by
    rw [step, pow_add]
    push_cast
    field_simp
  have grid : snap (spacing (i / 2 ^ k)) (i / 2 ^ k) = i / 2 ^ k := by
    have whole := snap_mul (spacing_pos (i / 2 ^ k)) (i * 2 ^ n)
    rwa [← steps] at whole
  rw [round_eq, grid, if_pos]
  calc |(i : Rat) / 2 ^ k| < 2 ^ (53 - k : Int) := size
    _ ≤ 2 ^ (53 : Int) := zpow_le_zpow_right₀ one_le_two (by omega)
    _ < 2 ^ (1024 : Nat) := by
      exact_mod_cast pow_lt_pow_right₀ (one_lt_two (α := Rat)) (by omega)

theorem round_intCast {i : Int} (safe : i.natAbs < 2 ^ 53) : round i = finite i := by
  simpa using round_dyadic (k := 0) safe (Nat.zero_le _)

theorem le_round {k : Nat} (above : (2 : Rat) ^ k ≤ q) :
    round q = infinity false ∨ ∃ r, round q = finite r ∧ (2 : Rat) ^ k ≤ r := by
  have pos : 0 < q := lt_of_lt_of_le (by positivity) above
  have exponent : (k : Int) ≤ binaryExponent q := by
    refine le_binaryExponent pos ?_
    rwa [zpow_natCast]
  have step : spacing q = 2 ^ (binaryExponent q - 52) := by
    unfold spacing
    rw [abs_eq, abs_of_pos pos, max_eq_left (by omega)]
  have whole : (2 : Rat) ^ 52 * spacing q = 2 ^ binaryExponent q := by
    rw [step, ← zpow_natCast, ← zpow_add₀ two_ne_zero]
    simp
  have steps : (2 : Rat) ^ 52 ≤ nearestEven (q / spacing q) := by
    have floor : (2 ^ 52 : Int) ≤ (q / spacing q).floor := by
      rw [Rat.le_floor_iff, le_div_iff₀ (spacing_pos q)]
      exact_mod_cast whole.le.trans (binaryExponent_spec pos).1
    exact_mod_cast floor.trans (nearestEven_spec _).1
  have far : (2 : Rat) ^ k ≤ snap (spacing q) q := by
    calc (2 : Rat) ^ k ≤ 2 ^ binaryExponent q := by
          rw [← zpow_natCast]
          exact zpow_le_zpow_right₀ one_le_two exponent
      _ = 2 ^ 52 * spacing q := whole.symm
      _ ≤ snap (spacing q) q := mul_le_mul_of_nonneg_right steps (spacing_pos q).le
  rw [round_eq]
  split
  · exact .inr ⟨_, rfl, far⟩
  · exact .inl (by rw [decide_eq_false pos.le.not_gt])

/-! ## Order -/

theorem zpow_eq_mul {k m : Int} (h : m ≤ k) : ∃ i : Int, (2 : Rat) ^ k = i * 2 ^ m := by
  refine ⟨2 ^ (k - m).toNat, ?_⟩
  push_cast
  rw [← zpow_natCast, ← zpow_add₀ two_ne_zero, Int.toNat_of_nonneg (by omega), sub_add_cancel]

/-- Two positive fractions have steps of one size, or there is a multiple of both steps between
them. -/
theorem spacing_cases (pos : 0 < p) (h : p ≤ q) :
    spacing p = spacing q ∨ ∃ mid, p ≤ mid ∧ mid ≤ q ∧ (∃ i : Int, mid = i * spacing p) ∧
      ∃ i : Int, mid = i * spacing q := by
  have posq := pos.trans_le h
  have exponents : binaryExponent p ≤ binaryExponent q :=
    le_binaryExponent posq ((binaryExponent_spec pos).1.trans h)
  unfold spacing
  rw [abs_eq, abs_eq, abs_of_pos pos, abs_of_pos posq]
  by_cases same : max (binaryExponent p - 52) (-1074) = max (binaryExponent q - 52) (-1074)
  · exact .inl (by rw [same])
  · have below : p ≤ 2 ^ binaryExponent q :=
      (binaryExponent_spec pos).2.le.trans (zpow_le_zpow_right₀ one_le_two (by omega))
    exact .inr ⟨2 ^ binaryExponent q, below, (binaryExponent_spec posq).1,
      zpow_eq_mul (by omega), zpow_eq_mul (by omega)⟩

theorem spacing_neg (q : Rat) : spacing (-q) = spacing q := by
  unfold spacing
  rw [abs_eq, abs_eq, abs_neg]

theorem snap_spacing_mono (h : p ≤ q) : snap (spacing p) p ≤ snap (spacing q) q := by
  have through (mid : Rat) (low : p ≤ mid) (high : mid ≤ q)
      (whole : ∃ i : Int, mid = i * spacing p) (whole' : ∃ i : Int, mid = i * spacing q) :
      snap (spacing p) p ≤ snap (spacing q) q := by
    obtain ⟨i, hi⟩ := whole
    obtain ⟨j, hj⟩ := whole'
    calc snap (spacing p) p ≤ snap (spacing p) mid := snap_mono (spacing_pos p) low
      _ = mid := by rw [hi, snap_mul (spacing_pos p)]
      _ = snap (spacing q) mid := by rw [hj, snap_mul (spacing_pos q)]
      _ ≤ snap (spacing q) q := snap_mono (spacing_pos q) high
  rcases lt_or_ge 0 p with pos | nonpos
  · rcases spacing_cases pos h with same | ⟨mid, low, high, whole, whole'⟩
    · rw [same]
      exact snap_mono (spacing_pos q) h
    · exact through mid low high whole whole'
  rcases lt_or_ge q 0 with neg | nonneg
  · rcases spacing_cases (neg_pos.mpr neg) (neg_le_neg h) with
      same | ⟨mid, low, high, ⟨i, whole⟩, j, whole'⟩
    · rw [spacing_neg, spacing_neg] at same
      rw [same]
      exact snap_mono (spacing_pos p) h
    · rw [spacing_neg] at whole whole'
      refine through (-mid) (by linarith) (by linarith) ⟨-j, ?_⟩ ⟨-i, ?_⟩
      · rw [whole', Int.cast_neg, neg_mul]
      · rw [whole, Int.cast_neg, neg_mul]
  · exact through 0 nonpos nonneg ⟨0, by simp⟩ ⟨0, by simp⟩

theorem snap_nonneg (h : 0 ≤ q) : 0 ≤ snap (spacing q) q := by
  rw [← snap_zero]
  exact snap_spacing_mono h

theorem snap_nonpos (h : q ≤ 0) : snap (spacing q) q ≤ 0 := by
  rw [← snap_zero]
  exact snap_spacing_mono h

theorem round_mono (h : p ≤ q) : (round p).le (round q) = true := by
  have ordered := snap_spacing_mono h
  rw [round_eq, round_eq]
  split
  · next small =>
    split
    · exact decide_eq_true ordered
    · next large =>
      have nonneg : ¬ q < 0 := by
        intro neg
        have below := snap_nonpos neg.le
        rw [abs_of_nonpos below, not_lt] at large
        exact absurd (abs_lt.mp small).1 (not_lt.mpr (ordered.trans (le_neg.mp large)))
      rw [decide_eq_false nonneg]
      rfl
  · next large =>
    by_cases neg : p < 0
    · rw [decide_eq_true neg]
      split <;> rfl
    · rw [not_lt] at neg
      have above := snap_nonneg neg
      rw [abs_of_nonneg above, not_lt] at large
      rw [if_neg (by rw [not_lt]; exact (large.trans ordered).trans (le_abs_self _)),
        decide_eq_false (neg.trans h).not_gt]
      cases decide (p < 0) <;> rfl

section

variable {a b c : Number}

theorem le_iff : a.le b = true ↔ a = infinity true ∧ b ≠ nan ∨ a ≠ nan ∧ b = infinity false ∨
    ∃ p q, a = finite p ∧ b = finite q ∧ p ≤ q := by
  cases a with
  | nan => simp [le]
  | infinity below =>
    cases below <;> cases b with
    | infinity above => cases above <;> simp [le]
    | nan | finite => simp [le]
  | finite p =>
    cases b with
    | infinity above => cases above <;> simp [le]
    | nan | finite => simp [le]

theorem le_trans (first : a.le b = true) (second : b.le c = true) : a.le c = true := by
  rw [le_iff] at *
  obtain ⟨rfl, -⟩ | ⟨ha, rfl⟩ | ⟨p, q, rfl, rfl, hpq⟩ := first
  · refine .inl ⟨rfl, ?_⟩
    rintro rfl
    obtain ⟨-, hc⟩ | ⟨-, ⟨⟩⟩ | ⟨_, _, -, ⟨⟩, -⟩ := second
    exact hc rfl
  · obtain ⟨⟨⟩, -⟩ | ⟨-, rfl⟩ | ⟨_, _, ⟨⟩, -⟩ := second
    exact .inr (.inl ⟨ha, rfl⟩)
  · obtain ⟨⟨⟩, -⟩ | ⟨-, rfl⟩ | ⟨_, r, ⟨⟩, rfl, hqr⟩ := second
    · exact .inr (.inl ⟨nofun, rfl⟩)
    · exact .inr (.inr ⟨p, r, rfl, rfl, hpq.trans hqr⟩)

/-- What leaves the infinities where they are keeps the order if it keeps that of the finite
numbers. -/
theorem le_map {f : Number → Number} (bounds : ∀ s, f (infinity s) = infinity s)
    (inner : ∀ p q, p ≤ q → (f (finite p)).le (f (finite q)) = true) (h : a.le b = true) :
    (f a).le (f b) = true := by
  have proper {n : Number} (hn : n ≠ nan) : f n ≠ nan := by
    intro none
    cases n with
    | nan => exact hn rfl
    | infinity s => exact absurd ((bounds s).symm.trans none) nofun
    | finite q =>
      have self := inner q q le_rfl
      rw [none] at self
      exact absurd self nofun
  obtain ⟨rfl, hb⟩ | ⟨ha, rfl⟩ | ⟨p, q, rfl, rfl, hpq⟩ := le_iff.mp h
  · exact le_iff.mpr (.inl ⟨bounds true, proper hb⟩)
  · exact le_iff.mpr (.inr (.inl ⟨proper ha, bounds false⟩))
  · exact inner p q hpq

theorem floor_mono (h : a.le b = true) : a.floor.le b.floor = true := by
  refine le_map (fun _ => rfl) (fun p q hpq => decide_eq_true ?_) h
  exact_mod_cast Int.floor_mono hpq

theorem scale_mono {factor : Rat} (nonneg : 0 ≤ factor) (h : a.le b = true) :
    (a.scale factor).le (b.scale factor) = true := by
  refine le_map (fun _ => rfl) (fun p q hpq => ?_) h
  exact round_mono (mul_le_mul_of_nonneg_right hpq nonneg)

theorem sub_mono (h : a.le b = true) (q : Rat) :
    (a.sub (finite q)).le (b.sub (finite q)) = true := by
  refine le_map (f := (·.sub (finite q))) (fun _ => rfl) (fun p p' hp => ?_) h
  exact round_mono (add_le_add_left hp (-q))

end

/-! ## Quotients -/

theorem spacing_half_le (filled : q ≠ 0) : spacing q / 2 ≤ max (|q| / 2 ^ 53) (1 / 2 ^ 1074) := by
  have below := (binaryExponent_spec (abs_pos.mpr filled)).1
  unfold spacing
  rw [abs_eq]
  rcases le_total (binaryExponent |q| - 52) (-1074) with least | least
  · rw [max_eq_right least, zpow_neg, zpow_ofNat, one_div]
    exact le_max_of_le_right (half_le_self (by positivity))
  · rw [max_eq_left least]
    refine le_max_of_le_left ?_
    rw [zpow_sub₀ two_ne_zero]
    linarith

theorem floor_round_div {i : Int} {d : Nat} (safe : i.natAbs < 2 ^ 53) (pos : 0 < d)
    (hd : d < 2 ^ 53) : (round (i / d)).floor = finite (i / d : Int) := by
  have divisor : (0 : Rat) < d := by exact_mod_cast pos
  have division := Int.mul_ediv_add_emod i d
  have nonneg := Int.emod_nonneg i (Int.natCast_ne_zero.mpr pos.ne')
  have below := Int.emod_lt_of_pos i (Int.natCast_pos.mpr pos)
  have split : (i : Rat) / d = (i / d : Int) + (i % d : Int) / d := by
    field_simp
    exact_mod_cast division.symm
  by_cases whole : i % d = 0
  · have small : (i / d : Int).natAbs < 2 ^ 53 :=
      (Int.natAbs_ediv_le_natAbs i d).trans_lt safe
    rw [split, whole, Int.cast_zero, zero_div, add_zero, round_intCast small, Number.floor]
    simp
  -- From the whole numbers around it there is a distance of `1 / d` at least.
  have low : ((i / d : Int) : Rat) + 1 / d ≤ i / d := by
    rw [split]
    gcongr
    exact_mod_cast (by omega : 1 ≤ i % d)
  have high : (i : Rat) / d + 1 / d ≤ (i / d : Int) + 1 := by
    rw [split, add_assoc, ← add_div]
    gcongr
    rw [div_le_one divisor]
    exact_mod_cast (by omega : i % d + 1 ≤ d)
  have filled : (i : Rat) / d ≠ 0 := by
    have : i ≠ 0 := fun zero => whole (by rw [zero, Int.zero_emod])
    positivity
  have size : |(i : Rat) / d| < 2 ^ 53 / d := by
    rw [abs_div, abs_of_pos divisor, ← Int.cast_abs, Int.abs_eq_natAbs]
    gcongr
    exact_mod_cast safe
  have half : spacing (i / d) / 2 < 1 / d := by
    refine (spacing_half_le filled).trans_lt (max_lt ?_ ?_)
    · rw [div_lt_iff₀ (by positivity), one_div_mul_eq_div]
      exact size
    · gcongr
      exact_mod_cast hd.trans (Nat.pow_lt_pow_right (by omega) (by omega))
  obtain ⟨r, rounded, near⟩ := round_near filled
    (size.trans_le (div_le_self (by positivity) (by exact_mod_cast pos)))
  rw [abs_le] at near
  rw [rounded, Number.floor, floor_eq_iff.mpr ⟨by linarith, by linarith⟩]

end TaskSync.Number
