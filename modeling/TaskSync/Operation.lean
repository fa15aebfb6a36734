import TaskSync.Dialogue
import TaskSync.Journal.Entry
import TaskSync.Store.Call

/-!
# Operations

What the server asks of its surroundings while it works: the store, fresh ids,
two clocks and the journal. A store call may fail, and an operation ends with
the failure unless it deals with it.
-/

namespace TaskSync

inductive Ask where
  | store (call : Store.Call)
  | freshId
  /-- The time in milliseconds. -/
  | now
  /-- A clock that only measures durations. -/
  | stopwatch
  | note (entry : Journal.Entry)
deriving DecidableEq

abbrev Ask.Answer : Ask → Type
  | store call => Except Failure call.Reply
  | freshId => String
  | now | stopwatch => Number
  | note _ => Unit

abbrev Conversation := Dialogue Ask Ask.Answer

abbrev Operation := ExceptT Failure Conversation

namespace Operation

def ask (question : Ask) : Conversation question.Answer := Dialogue.query question

def call (call : Store.Call) : Operation call.Reply := ExceptT.mk (ask (.store call))

/-- Calls the store, and hands on how that went. -/
def attempt (call : Store.Call) : Operation (Except Failure call.Reply) :=
  ExceptT.lift (ask (.store call))

def freshId : Operation String := ExceptT.lift (ask .freshId)

def now : Operation Number := ExceptT.lift (ask .now)

def note (entry : Journal.Entry) : Operation Unit := ExceptT.lift (ask (.note entry))

end Operation

end TaskSync
