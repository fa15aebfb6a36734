import TaskSync.Http.Message
import TaskSync.Number.Numeral

/-!
# The body limit

A request whose body is too long is refused. If the request says how long its
body is, that is believed, unless the body is sent in some other encoding.
Otherwise the bytes are counted.
-/

namespace TaskSync.Http

/-- The integer at the start of a text, after blanks and a sign. -/
def leadingInteger (s : String) : Number :=
  let signed (cs : List Char) : Number :=
    let digits := cs.takeWhile Char.isDigit
    if digits.isEmpty then .nan else .round (Nat.ofDigitChars 10 digits 0 : Nat)
  match s.toList.dropWhile Text.isBlank with
  | '-' :: cs => (signed cs).neg
  | '+' :: cs => signed cs
  | cs => signed cs

/-- The length that the headers give for the body. -/
def announcedLength? (headers : Headers) : Option Number :=
  match headers.get? "transfer-encoding", headers.get? "content-length" with
  | none, some value => some (leadingInteger (if value = "" then "0" else value))
  | _, _ => none

def exceeds (limit : Number) (request : Request) : Bool :=
  match request.body with
  | .absent => false
  | body => limit.lt ((announcedLength? request.headers).getD (.ofNat body.bytes.length))

end TaskSync.Http
