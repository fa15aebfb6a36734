import TaskSync.Http.Target

/-!
# Routes

What a method and a path lead to. A path counts segment by segment, and a
segment that names a version is read as it is written once its escapes are read.
-/

namespace TaskSync.Http

/-- The endpoints of the protocol, with the version that the path names. -/
inductive Endpoint where
  | addVersion (parent : String)
  | getChildVersion (parent : String)
  | addSnapshot (version : String)
  | getSnapshot
deriving DecidableEq

inductive Route where
  /-- Tells that the server is there. -/
  | banner
  | protocol (endpoint : Endpoint)
deriving DecidableEq

namespace Route

/-- The text of a segment with all its escapes read. -/
def parameter (segment : List Char) : String := String.ofList (unescape (fun _ => false) segment)

/-- The segments of a path, the first of which is what stands before the first slash. -/
def segments (path : List Char) : List (List Char) := Text.fields '/' path

/-- The endpoint of a name whose path goes on with a version. -/
def versioned? (method name : String) (version : List Char) : Option Endpoint :=
  if version.isEmpty then none
  else if method = "POST" ∧ name = "add-version" then some (.addVersion (parameter version))
  else if method = "GET" ∧ name = "get-child-version" then
    some (.getChildVersion (parameter version))
  else if method = "POST" ∧ name = "add-snapshot" then some (.addSnapshot (parameter version))
  else none

/-- The endpoint of the segments below the protocol's own. -/
def endpoint? (method : String) : List (List Char) → Option Endpoint
  | [name] => if method = "GET" ∧ String.ofList name = "snapshot" then some .getSnapshot else none
  | [name, version] => versioned? method (String.ofList name) version
  | _ => none

def find? (method : String) (path : List Char) : Option Route :=
  match segments path with
  | [[], []] => if method = "GET" then some .banner else none
  | [] :: root :: folder :: rest =>
    if String.ofList root = "v1" ∧ String.ofList folder = "client" then
      (endpoint? method rest).map .protocol
    else none
  | _ => none

/-- Whether a path belongs to the protocol, so that only admitted clients get further. -/
def isGuarded (path : List Char) : Bool :=
  match segments path with
  | [] :: root :: _ => String.ofList root = "v1"
  | _ => false

end Route

end TaskSync.Http
