import TaskSync.Http.Message
import TaskSync.Text.Utf8

/-!
# The wire

How a request is written in lines, and how an answer is.
-/

namespace TaskSync.Http.Wire

def chomp (line : String) : List Char :=
  (line.toList.reverse.dropWhile fun c => c = '\n' || c = '\r').reverse

/-- The method and the target of a request, from its first line. -/
def requestLine? (line : String) : Option (String × String) :=
  let letters := chomp line
  let method := letters.takeWhile (· ≠ ' ')
  let rest := (letters.dropWhile (· ≠ ' ')).drop 1
  let target := rest.takeWhile (· ≠ ' ')
  if method.isEmpty || target.isEmpty then none
  else some (String.ofList method, String.ofList target)

/-- The name and the value of a header. -/
def header? (line : String) : Option (String × String) :=
  let letters := chomp line
  match letters.dropWhile (· ≠ ':') with
  | ':' :: value => some (String.ofList (letters.takeWhile (· ≠ ':')), String.ofList value)
  | _ => none

inductive Framing where
  | absent
  | sized (length : Nat)
  | chunked
deriving DecidableEq

def framing (headers : Headers) : Framing :=
  if (headers.get? "transfer-encoding").isSome then .chunked
  else
    match (headers.get? "content-length").bind String.toNat? with
    | some length => .sized length
    | none => .absent

def hexValue (digits : List Char) : Nat :=
  digits.foldl (fun value c =>
    16 * value + (if c.isDigit then c.toNat - 48 else c.toLower.toNat - 87)) 0

/-- The length of a chunk, from the line before it. -/
def chunkLength (line : String) : Nat :=
  hexValue ((chomp line).takeWhile fun c => c.isDigit || ('a' ≤ c.toLower && c.toLower ≤ 'f'))

def reason : Nat → String
  | 200 => "OK"
  | 400 => "Bad Request"
  | 403 => "Forbidden"
  | 404 => "Not Found"
  | 409 => "Conflict"
  | 410 => "Gone"
  | _ => "Internal Server Error"

def contentBytes : Content → Bytes
  | .empty => []
  | .text value => Text.bytesOf value.toList
  | .bytes _ value => value

/-- The lines before the body of an answer. -/
def head (response : Response) : String :=
  let length := (contentBytes response.content).length
  let headers := response.allHeaders ++ [("content-length", Nat.repr length)]
  "HTTP/1.1 " ++ Nat.repr response.status ++ " " ++ reason response.status ++ "\r\n" ++
    String.join (headers.map fun (name, value) => name ++ ": " ++ value ++ "\r\n") ++ "\r\n"

def write (response : Response) : Bytes :=
  Text.bytesOf (head response).toList ++ contentBytes response.sent

end TaskSync.Http.Wire
