/-!
# Numbers

The numbers that settings, clocks and counters are given in: the binary numbers
with a significand of 53 bits, the two infinities, and the number that is none.
The value of a finite number is an exact fraction, so that every operation is
the exact one followed by a single rounding. Zero has one form.
-/

namespace TaskSync

inductive Number where
  | nan
  | infinity (negative : Bool)
  | finite (value : Rat)
deriving DecidableEq

namespace Number

/-! ## Rounding -/

/-- The exponent of the power of two at or just below a positive fraction. -/
def binaryExponent (q : Rat) : Int :=
  let e : Int := (q.num.natAbs.log2 : Int) - (q.den.log2 : Int)
  if (2 : Rat) ^ e ≤ q then e else e - 1

/-- The step between neighbouring numbers around a fraction. -/
def spacing (q : Rat) : Rat := 2 ^ max (binaryExponent q.abs - 52) (-1074)

/-- The nearest integer, a half going to the even neighbour. -/
def nearestEven (q : Rat) : Int :=
  let below := q.floor
  let rest := q - below
  if rest < 1 / 2 then below
  else if 1 / 2 < rest then below + 1
  else if below % 2 = 0 then below else below + 1

/-- The number nearest to a fraction. Beyond the largest number it is infinite. -/
def round (q : Rat) : Number :=
  if q = 0 then finite 0
  else
    let nearest := (nearestEven (q / spacing q) : Rat) * spacing q
    if nearest.abs < 2 ^ (1024 : Nat) then finite nearest else infinity (q < 0)

/-! ## Arithmetic -/

/-- A count as a number. Counts stay far below the first integer that has no exact number. -/
def ofNat (n : Nat) : Number := finite n

instance (n : Nat) : OfNat Number n := ⟨ofNat n⟩

def neg : Number → Number
  | nan => nan
  | infinity s => infinity (!s)
  | finite q => finite (-q)

def add : Number → Number → Number
  | nan, _ => nan
  | _, nan => nan
  | infinity s, infinity t => if s = t then infinity s else nan
  | infinity s, finite _ => infinity s
  | finite _, infinity t => infinity t
  | finite a, finite b => round (a + b)

def sub (a b : Number) : Number := a.add b.neg

def scale (factor : Rat) : Number → Number
  | nan => nan
  | infinity s => infinity s
  | finite q => round (q * factor)

def floor : Number → Number
  | finite q => finite q.floor
  | other => other

/-- The nearest integer, a half going up. -/
def nearest : Number → Number
  | finite q => finite (q + 1 / 2).floor
  | other => other

/-! ## Comparison -/

/-- Nothing compares with the number that is none. -/
def le : Number → Number → Bool
  | nan, _ => false
  | _, nan => false
  | infinity true, _ => true
  | _, infinity false => true
  | finite a, finite b => a ≤ b
  | _, _ => false

def lt (a b : Number) : Bool := a.le b && !b.le a

def isNaN : Number → Bool
  | nan => true
  | _ => false

def toInt? : Number → Option Int
  | finite q => if q.den = 1 then some q.num else none
  | _ => none

def isInteger (n : Number) : Bool := n.toInt?.isSome

@[simp] theorem toInt?_ofNat (n : Nat) : (ofNat n).toInt? = some n := by
  simp [ofNat, toInt?]

@[simp] theorem le_ofNat (m n : Nat) : (ofNat m).le (ofNat n) = decide (m ≤ n) := by
  change decide ((m : Rat) ≤ n) = decide (m ≤ n)
  rw [decide_eq_decide, Rat.natCast_le_natCast]

end Number

end TaskSync
