import TaskSync.Number.Basic
import TaskSync.Text.Blank

/-!
# Numerals

How a text is read as a number: a decimal with an optional fraction and
exponent, `Infinity`, or an unsigned integer in base sixteen, eight or two after
`0x`, `0o` or `0b`. Blanks around it do not count, and a blank text is zero.
-/

namespace TaskSync.Number

/-- The number nearest to `digits * 10 ^ scale`. Far out of range the power is not formed. -/
def ofDecimal (digits : Nat) (scale : Int) : Number :=
  if digits = 0 then 0
  else if 400 < scale then infinity false
  else if scale < -(400 + digits.log2 : Int) then 0
  else round (digits * (10 : Rat) ^ scale)

/-- The exponent at the end of a decimal, zero if there is none. -/
def readExponent? : List Char → Option Int
  | [] => some 0
  | c :: rest =>
    let (negative, digits) := match rest with
      | '-' :: digits => (true, digits)
      | '+' :: digits => (false, digits)
      | digits => (false, digits)
    if (c = 'e' || c = 'E') && !digits.isEmpty && digits.all Char.isDigit then
      let size : Int := Nat.ofDigitChars 10 digits 0
      some (if negative then -size else size)
    else none

def readFraction : List Char → List Char × List Char
  | '.' :: rest => (rest.takeWhile Char.isDigit, rest.dropWhile Char.isDigit)
  | rest => ([], rest)

def readDecimal? (cs : List Char) : Option Number :=
  let whole := cs.takeWhile Char.isDigit
  let (fraction, rest) := readFraction (cs.dropWhile Char.isDigit)
  if whole.isEmpty && fraction.isEmpty then none
  else (readExponent? rest).map fun exponent =>
    ofDecimal (Nat.ofDigitChars 10 (whole ++ fraction) 0) (exponent - fraction.length)

def readUnsigned? (cs : List Char) : Option Number :=
  if cs = "Infinity".toList then some (infinity false) else readDecimal? cs

/-- The value of a digit in a base up to sixteen. -/
def digitValue? (base : Nat) (c : Char) : Option Nat :=
  let value :=
    if c.isDigit then some (c.toNat - 48)
    else if 'a' ≤ c && c ≤ 'f' then some (c.toNat - 87)
    else if 'A' ≤ c && c ≤ 'F' then some (c.toNat - 55)
    else none
  value.filter (· < base)

def readRadix? (base : Nat) (cs : List Char) : Option Number :=
  if cs.isEmpty then none
  else (cs.mapM (digitValue? base)).map fun digits =>
    round (digits.foldl (fun value digit => base * value + digit) 0 : Nat)

/-- The base that a letter after a leading zero stands for. -/
def radix? (c : Char) : Option Nat :=
  if c = 'x' || c = 'X' then some 16
  else if c = 'o' || c = 'O' then some 8
  else if c = 'b' || c = 'B' then some 2
  else none

def readSigned? : List Char → Option Number
  | '-' :: cs => (readUnsigned? cs).map neg
  | '+' :: cs => readUnsigned? cs
  | cs => readUnsigned? cs

/-- The number that a text without blanks at its ends stands for. -/
def readTrimmed? : List Char → Option Number
  | [] => some 0
  | '0' :: letter :: cs =>
    match radix? letter with
    | some base => readRadix? base cs
    | none => readSigned? ('0' :: letter :: cs)
  | cs => readSigned? cs

/-- The number that a text stands for. Any other text is not a number. -/
def read (s : String) : Number :=
  (readTrimmed? (Text.strip Text.isBlank s.toList)).getD nan

end TaskSync.Number
