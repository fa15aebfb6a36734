import TaskSync.Number.Basic

/-!
# Shortest decimals

The text of a number has the fewest digits that read back as the number, and of
those the nearest. It is positional between a millionth and `10 ^ 21`, and
has an exponent beyond.
-/

namespace TaskSync.Number

/-- The exponent of the power of ten at or just below a positive fraction. -/
def decimalExponent (q : Rat) : Int :=
  let e := binaryExponent q * 30103 / 100000
  if (10 : Rat) ^ (e + 1) ≤ q then e + 1 else if (10 : Rat) ^ e ≤ q then e else e - 1

/-- The multiple of a power of ten next to a positive fraction that reads back as its number. -/
def gridPoint? (q : Rat) (exponent : Int) : Option Nat :=
  let unit := (10 : Rat) ^ exponent
  let below := (q / unit).floor.toNat
  let readsBack (n : Nat) : Bool := round (n * unit) == round q
  let nearest := (nearestEven (q / unit)).toNat
  let other := if nearest = below then below + 1 else below
  if readsBack nearest then some nearest
  else if readsBack other then some other
  else none

/-- The digits and the scale of the shortest decimal. No number needs more than 17 digits. -/
def shortest (q : Rat) : Nat × Int :=
  let top := decimalExponent q
  let grid (digits : Nat) : Option (Nat × Int) :=
    let exponent := top + 1 - digits
    (gridPoint? q exponent).map (·, exponent)
  ((List.range' 1 17).findSome? grid).getD (0, 0)

/-- Writes digits with the point after the first `point` of them. -/
def layOut (digits : List Char) (point : Int) : List Char :=
  let count : Int := digits.length
  if count ≤ point && point ≤ 21 then digits ++ List.replicate (point - count).toNat '0'
  else if 0 < point && point ≤ 21 then
    digits.take point.toNat ++ '.' :: digits.drop point.toNat
  else if -6 < point && point ≤ 0 then
    '0' :: '.' :: List.replicate (-point).toNat '0' ++ digits
  else
    let exponent := point - 1
    let mantissa := match digits with
      | first :: second :: rest => first :: '.' :: second :: rest
      | one => one
    mantissa ++ 'e' :: (if exponent < 0 then '-' else '+') :: Nat.toDigits 10 exponent.natAbs

def positiveText (q : Rat) : List Char :=
  let (digits, scale) := shortest q
  let written := Nat.toDigits 10 digits
  layOut (written.reverse.dropWhile (· = '0')).reverse (scale + written.length)

def text : Number → String
  | nan => "NaN"
  | infinity negative => if negative then "-Infinity" else "Infinity"
  | finite q =>
    if q = 0 then "0"
    else if q < 0 then String.ofList ('-' :: positiveText (-q))
    else String.ofList (positiveText q)

end TaskSync.Number
