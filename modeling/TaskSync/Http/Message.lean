import TaskSync.Record

/-!
# Requests and answers

Header names are compared without regard to case. A header that is given more
than once counts as one, with its values in a row.
-/

namespace TaskSync.Http

/-- A text with its ASCII capitals in lower case. -/
def asciiLower (s : String) : String := String.ofList (s.toList.map Char.toLower)

/-- Headers by their names in lower case. -/
structure Headers where
  entries : List (String × String) := []
deriving DecidableEq

namespace Headers

def trimValue (value : String) : String :=
  let isSpace (c : Char) : Bool := [' ', '\t', '\n', '\r'].contains c
  String.ofList ((value.toList.dropWhile isSpace).reverse.dropWhile isSpace).reverse

def addEntry (name value : String) : List (String × String) → List (String × String)
  | [] => [(name, value)]
  | (n, v) :: rest =>
    if n = name then (n, v ++ ", " ++ value) :: rest else (n, v) :: addEntry name value rest

def add (headers : Headers) (name value : String) : Headers :=
  ⟨addEntry (asciiLower name) (trimValue value) headers.entries⟩

def ofList (given : List (String × String)) : Headers :=
  given.foldl (fun headers header => headers.add header.1 header.2) ⟨[]⟩

/-- The value of a header, by its name in lower case. -/
def get? (headers : Headers) (name : String) : Option String :=
  (headers.entries.find? (·.1 = name)).map (·.2)

/-- The value of a header that is there and not empty. -/
def filled? (headers : Headers) (name : String) : Option String :=
  (headers.get? name).filter (· ≠ "")

end Headers

/-- The body of a request: none, one in a piece, or one that comes in pieces. -/
inductive Body where
  | absent
  | whole (bytes : Bytes)
  | chunks (pieces : List Bytes)
deriving DecidableEq

namespace Body

def bytes : Body → Bytes
  | absent => []
  | whole bytes => bytes
  | chunks pieces => pieces.flatten

end Body

structure Request where
  method : String
  target : String
  headers : Headers := ⟨[]⟩
  body : Body := .absent
deriving DecidableEq

namespace Request

/-- The method as it is routed. The names of the common methods may be given in any case. -/
def verb (request : Request) : String :=
  let upper := String.ofList (request.method.toList.map Char.toUpper)
  if ["DELETE", "GET", "HEAD", "OPTIONS", "POST", "PUT"].contains upper then upper
  else request.method

/-- A request as it arrives. One that only asks for something has no body. -/
def receive (method target : String) (headers : List (String × String)) (body : Body) : Request :=
  let request : Request := ⟨method, target, .ofList headers, body⟩
  if ["GET", "HEAD"].contains request.verb then { request with body := .absent } else request

end Request

inductive Content where
  | empty
  | text (value : String)
  | bytes (mediaType : String) (value : Bytes)
deriving DecidableEq

/-- An answer, with the headers that do not follow from its content. -/
structure Response where
  status : Nat
  headers : List (String × String) := []
  content : Content := .empty
  /-- Whether only the headers are sent. -/
  headOnly : Bool := false
deriving DecidableEq

namespace Response

def plain (status : Nat) (text : String) : Response := { status, content := .text text }

def withHeaders (response : Response) (headers : List (String × String)) : Response :=
  { response with headers := response.headers ++ headers }

def mediaType? (response : Response) : Option String :=
  match response.content with
  | .empty => none
  | .text _ => some "text/plain;charset=UTF-8"
  | .bytes mediaType _ => some mediaType

def allHeaders (response : Response) : List (String × String) :=
  (response.mediaType?.map (("content-type", ·))).toList ++ response.headers

def sent (response : Response) : Content :=
  if response.headOnly then
    match response.content with
    | .empty => .empty
    | .text _ => .text ""
    | .bytes mediaType _ => .bytes mediaType []
  else response.content

end Response

end TaskSync.Http
