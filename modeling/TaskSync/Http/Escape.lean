import TaskSync.Number.Numeral
import TaskSync.Text.Utf8

/-!
# Escapes

In a path a byte is written as a percent sign and two hexadecimal digits. Bytes
written side by side are read together: as text if all of them are, and else
they stay as written.
-/

namespace TaskSync.Http

def hexDigit? (c : Char) : Option Nat := Number.digitValue? 16 c

/-- A byte and the digits it was written with. -/
structure Escape where
  byte : UInt8
  high : Char
  low : Char
deriving DecidableEq

namespace Escape

def ofDigits? (high low : Char) : Option Escape := do
  let h ← hexDigit? high
  let l ← hexDigit? low
  return ⟨UInt8.ofNat (16 * h + l), high, low⟩

def ofByte (byte : UInt8) : Escape :=
  ⟨byte, (Nat.digitChar (byte.toNat / 16)).toUpper, (Nat.digitChar (byte.toNat % 16)).toUpper⟩

def written (e : Escape) : List Char := ['%', e.high, e.low]

/-- The characters that a run of escapes stands for. One that is kept stays as written. -/
def readRun (kept : Char → Bool) (run : List Escape) : Option (List Char) :=
  match run with
  | [] => some []
  | lead :: rest => do
    let n := Text.followers lead.byte
    let c ← Text.charOfBytes? (lead.byte :: (rest.take n).map (·.byte))
    let more ← readRun kept (rest.drop n)
    return (if kept c then lead.written else [c]) ++ more
termination_by run.length

/-- A run as text if it is text, and else as written. -/
def settle (kept : Char → Bool) (run : List Escape) : List Char :=
  (readRun kept run).getD (run.flatMap written)

/-- Reads the escapes in a text that follows a run of them. -/
def readAfter (kept : Char → Bool) (run : List Escape) : List Char → List Char
  | '%' :: high :: low :: rest =>
    match ofDigits? high low with
    | some e => readAfter kept (run ++ [e]) rest
    | none => settle kept run ++ '%' :: readAfter kept [] (high :: low :: rest)
  | c :: rest => settle kept run ++ c :: readAfter kept [] rest
  | [] => settle kept run

end Escape

/-- Reads the escapes of a text, except those of the characters that are kept escaped. -/
def unescape (kept : Char → Bool) (cs : List Char) : List Char := Escape.readAfter kept [] cs

/-- Escapes the bytes of the characters of a class. -/
def escape (chosen : Char → Bool) (cs : List Char) : List Char :=
  cs.flatMap fun c =>
    if chosen c then (String.utf8EncodeChar c).flatMap fun b => (Escape.ofByte b).written else [c]

end TaskSync.Http
