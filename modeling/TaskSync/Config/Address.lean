import TaskSync.Number.Numeral
import TaskSync.Text.Blank

/-!
# Addresses

A host and a port to listen on, with the last colon between them. The host may
stand in brackets, which do not belong to it.
-/

namespace TaskSync

structure Address where
  host : String
  port : Nat
deriving DecidableEq

namespace Address

def unbracket (cs : List Char) : List Char :=
  match cs with
  | '[' :: rest =>
    if rest.getLast? = some ']' && !rest.dropLast.any Text.endsLine then rest.dropLast else cs
  | _ => cs

def readPort? (cs : List Char) : Option Nat :=
  match (Number.read (String.ofList cs)).toInt? with
  | some port => if 0 ≤ port ∧ port ≤ 65535 then some port.toNat else none
  | none => none

/-- The text before the last colon and the text after it. -/
def splitLast? (cs : List Char) : Option (List Char × List Char) :=
  match cs.reverse.dropWhile (· ≠ ':') with
  | [] => none
  | _ :: host => some (host.reverse, (cs.reverse.takeWhile (· ≠ ':')).reverse)

def read? (s : String) : Option Address :=
  match splitLast? s.toList with
  | some (host, port) =>
    if host.isEmpty then none
    else (readPort? port).map fun port => ⟨String.ofList (unbracket host), port⟩
  | none => none

end Address

end TaskSync
