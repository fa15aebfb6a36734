import TaskSync.Http.Message
import TaskSync.Text.Blank
import TaskSync.Text.LowerCase

/-!
# The allow-list

The clients that may use the server. An empty list lets everybody in. Ids are
compared without regard to case.
-/

namespace TaskSync.Http

structure Allowlist where
  ids : List String := []
deriving DecidableEq

namespace Allowlist

/-- The entries trimmed and in lower case, each once, without the blank ones. -/
def ofList (entries : List String) : Allowlist :=
  ⟨((entries.map fun entry => Text.lower (Text.trim entry)).filter (· ≠ "")).eraseDups⟩

/-- Whether a request with these headers may pass. One without a client passes, to be refused for
that later. -/
def admits (list : Allowlist) (headers : Headers) : Bool :=
  list.ids.isEmpty ||
    match headers.filled? "x-client-id" with
    | none => true
    | some client => list.ids.contains (Text.lower client)

end Allowlist

end TaskSync.Http
