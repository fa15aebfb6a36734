import TaskSync.Number.Basic

/-!
# Failures

Why an operation has no result. A backend reports what its driver raised as a
storage failure with the driver's failure as its cause, and hands failures of
this library on as they are.
-/

namespace TaskSync

/-- A plain value raised in place of a failure. Each has a text: one that gives none is not among
them. -/
inductive Raw where
  | null
  | bool (value : Bool)
  | number (value : Number)
  | text (value : String)
  /-- A value with parts, by how it is written, and the text that it gives of itself. -/
  | compound (written shown : String)
deriving DecidableEq

/-- What a storage failure wraps. -/
inductive Cause where
  | absent
  | error (message : String)
  | value (raw : Raw)
deriving DecidableEq

inductive Failure where
  /-- The client is unknown and may not be created. -/
  | noSuchClient (client : String)
  /-- The client was created by another request in between. -/
  | clientAlreadyExists (client : String)
  /-- The backend failed, and nothing was written. -/
  | storage (message : String) (cause : Cause)
  | config (message : String)
  | general (message : String)
  /-- A failure raised elsewhere, by its name. -/
  | foreign (name message : String)
  | raised (raw : Raw)
deriving DecidableEq

namespace Failure

/-- A failure of no kind of its own. -/
def plain (message : String) : Failure := foreign "Error" message

def message : Failure → String
  | noSuchClient client => "No such client: " ++ client
  | clientAlreadyExists client => "Client " ++ client ++ " already exists"
  | storage message _ | config message | general message | foreign _ message => message
  | raised _ => ""

def isOwn : Failure → Bool
  | foreign .. | raised _ => false
  | _ => true

/-- The failure as a storage failure met while doing `context`. Failures of this library stay. -/
def wrap (context : String) : Failure → Failure
  | foreign _ message => storage context (.error message)
  | raised raw => storage context (.value raw)
  | own => own

theorem wrap_of_isOwn {context : String} {f : Failure} (own : f.isOwn) : f.wrap context = f := by
  cases f <;> simp_all [isOwn, wrap]

@[simp] theorem isOwn_wrap (context : String) (f : Failure) : (f.wrap context).isOwn := by
  cases f <;> rfl

end Failure

end TaskSync
