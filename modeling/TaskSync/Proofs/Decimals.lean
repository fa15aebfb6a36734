import Mathlib.Data.List.Basic
import Mathlib.Data.List.TakeWhile
import Mathlib.Tactic.IntervalCases
import TaskSync.Number.Numeral
import TaskSync.Proofs.Roundings

/-!
# Whole numbers in decimal

A whole number below `2 ^ 53` is left alone by rounding, so that its decimal is
read back as the number.
-/

namespace TaskSync.Number

/-! ## Reading -/

def decimal (i : Int) : List Char :=
  if i < 0 then '-' :: Nat.toDigits 10 i.natAbs else Nat.toDigits 10 i.natAbs

theorem mem_digits {c : Char} (digit : c.isDigit = true) : c ∈ "0123456789".toList := by
  have range : 48 ≤ c.toNat ∧ c.toNat ≤ 57 := by
    simpa [Char.isDigit, UInt32.le_iff_toNat_le] using digit
  obtain ⟨low, high⟩ := range
  rw [← Char.ofNat_toNat c]
  generalize c.toNat = n at low high
  interval_cases n <;> decide

theorem isBlank_of_isDigit {c : Char} (digit : c.isDigit = true) : Text.isBlank c = false := by
  have none : "0123456789".toList.all (!Text.isBlank ·) = true := by decide
  simpa using List.all_eq_true.mp none c (mem_digits digit)

theorem radix?_of_isDigit {c : Char} (digit : c.isDigit = true) : radix? c = none := by
  have none : "0123456789".toList.all (radix? · = none) = true := by decide
  simpa using List.all_eq_true.mp none c (mem_digits digit)

theorem ofDecimal_eq_round {n : Nat} (filled : n ≠ 0) : ofDecimal n 0 = round n := by
  have near : ¬ (400 : Int) < 0 ∧ ¬ (0 : Int) < -(400 + (n.log2 : Int)) := by omega
  unfold ofDecimal
  rw [if_neg filled, if_neg near.1, if_neg near.2, zpow_zero, mul_one]

theorem ofDecimal_natCast {n : Nat} (safe : n < 2 ^ 53) : ofDecimal n 0 = finite n := by
  by_cases filled : n = 0
  · rw [filled]
    rfl
  · rw [ofDecimal_eq_round filled]
    exact_mod_cast round_intCast (i := n) safe

theorem toInt?_finite {q : Rat} {i : Int} : (finite q).toInt? = some i ↔ q = i := by
  unfold toInt?
  constructor
  · intro whole
    dsimp only at whole
    split at whole
    · next one => rw [← Rat.coe_int_num_of_den_eq_one one, Option.some.inj whole]
    · cases whole
  · rintro rfl
    simp

section Digits

variable {cs : List Char} (digits : ∀ c ∈ cs, c.isDigit = true)
include digits

theorem readUnsigned?_digits (filled : cs ≠ []) :
    readUnsigned? cs = some (ofDecimal (Nat.ofDigitChars 10 cs 0) 0) := by
  have word : cs ≠ "Infinity".toList := by
    rintro rfl
    exact absurd (digits 'I' (by decide)) (by decide)
  have whole : cs.takeWhile Char.isDigit = cs := by
    rw [List.takeWhile_eq_self_iff]
    exact digits
  have rest : cs.dropWhile Char.isDigit = [] := by
    rw [List.dropWhile_eq_nil_iff]
    exact digits
  have filled : cs.isEmpty = false := by simpa using filled
  unfold readUnsigned? readDecimal?
  rw [if_neg word]
  simp only [whole, rest, readFraction, filled, Bool.false_and, Bool.false_eq_true, if_false,
    readExponent?, Option.map_some, List.append_nil, List.length_nil, Nat.cast_zero, sub_zero]

theorem readSigned?_digits : readSigned? cs = readUnsigned? cs := by
  unfold readSigned?
  split
  · exact absurd (digits '-' (by simp)) (by decide)
  · exact absurd (digits '+' (by simp)) (by decide)
  · rfl

theorem readTrimmed?_digits (filled : cs ≠ []) : readTrimmed? cs = readUnsigned? cs := by
  unfold readTrimmed?
  split
  · exact absurd rfl filled
  · next letter rest =>
    rw [radix?_of_isDigit (digits letter (by simp))]
    exact readSigned?_digits digits
  · exact readSigned?_digits digits

theorem strip_digits : Text.strip Text.isBlank cs = cs :=
  Text.strip_eq_self (fun c hc => isBlank_of_isDigit (digits c (List.mem_of_mem_head? hc)))
    fun c hc => isBlank_of_isDigit (digits c (List.mem_of_getLast? hc))

theorem read_digits (filled : cs ≠ []) :
    read (String.ofList cs) = ofDecimal (Nat.ofDigitChars 10 cs 0) 0 := by
  unfold read
  rw [String.toList_ofList, strip_digits digits, readTrimmed?_digits digits filled,
    readUnsigned?_digits digits filled, Option.getD_some]

end Digits

theorem read_decimal {i : Int} (safe : i.natAbs < 2 ^ 53) :
    read (String.ofList (decimal i)) = finite i := by
  have digits : ∀ c ∈ Nat.toDigits 10 i.natAbs, c.isDigit = true :=
    fun c hc => Nat.isDigit_of_mem_toDigits (by omega) (by omega) hc
  have filled : Nat.toDigits 10 i.natAbs ≠ [] := Nat.toDigits_ne_nil
  have value : ofDecimal (Nat.ofDigitChars 10 (Nat.toDigits 10 i.natAbs) 0) 0 =
      finite i.natAbs := by
    rw [Nat.ofDigitChars_ten_toDigits, ofDecimal_natCast safe]
  unfold decimal
  split
  · next negative =>
    have plain : Text.strip Text.isBlank ('-' :: Nat.toDigits 10 i.natAbs) =
        '-' :: Nat.toDigits 10 i.natAbs := by
      refine Text.strip_eq_self (by simp; decide) fun c hc => ?_
      rw [List.getLast?_cons_of_ne_nil filled] at hc
      exact isBlank_of_isDigit (digits c (List.mem_of_getLast? hc))
    have signed : readTrimmed? ('-' :: Nat.toDigits 10 i.natAbs) =
        (readUnsigned? (Nat.toDigits 10 i.natAbs)).map neg := by
      simp [readTrimmed?, readSigned?]
    have whole : -((i.natAbs : Nat) : Int) = i := by omega
    unfold read
    rw [String.toList_ofList, plain, signed, readUnsigned?_digits digits filled, value,
      Option.map_some, Option.getD_some, neg]
    congr 1
    rw [← whole]
    simp
  · next nonnegative =>
    have whole : ((i.natAbs : Nat) : Int) = i := by omega
    rw [read_digits digits filled, value]
    congr 1
    rw [← whole]
    simp

end TaskSync.Number
