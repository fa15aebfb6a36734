/-!
# Bytes of a character

One to four bytes stand for a character. The first one tells how many follow,
and each character has only its shortest form.
-/

namespace TaskSync.Text

/-- How many bytes follow a first byte. No character starts with a byte from 0x80 to 0xBF. -/
def followers (lead : UInt8) : Nat :=
  if lead < 0xC0 then 0 else if lead < 0xE0 then 1 else if lead < 0xF0 then 2 else 3

def isFollower (b : UInt8) : Bool := 0x80 ≤ b && b < 0xC0

/-- The six bits that a following byte adds. -/
def addBits (code : Nat) (b : UInt8) : Nat := code * 64 + b.toNat % 64

/-- The character that bytes stand for, if they stand for one. -/
def charOfBytes? : List UInt8 → Option Char
  | [] => none
  | lead :: rest =>
    let n := rest.length
    let code := rest.foldl addBits (if n = 0 then lead.toNat else lead.toNat % Nat.pow 2 (6 - n))
    let least := match n with
      | 0 => 0
      | 1 => 0x80
      | 2 => 0x800
      | _ => 0x10000
    if (lead < 0x80 || 0xC0 ≤ lead && lead < 0xF8) && followers lead = n && rest.all isFollower &&
        least ≤ code && code.isValidChar then
      some (Char.ofNat code)
    else none

def bytesOf (cs : List Char) : List UInt8 := cs.flatMap String.utf8EncodeChar

end TaskSync.Text
