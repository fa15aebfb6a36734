/-!
# Log levels

How much is logged. A logger shows the entries at its level and above it, and
none at the level `silent`.
-/

namespace TaskSync.Journal

inductive Level where
  | trace
  | debug
  | info
  | warn
  | error
  | fatal
  | silent
deriving DecidableEq

namespace Level

/-- The levels from the most talkative on. -/
def all : List Level := [trace, debug, info, warn, error, fatal, silent]

def rank : Level → Nat
  | trace => 10
  | debug => 20
  | info => 30
  | warn => 40
  | error => 50
  | fatal => 60
  | silent => 70

def name : Level → String
  | trace => "trace"
  | debug => "debug"
  | info => "info"
  | warn => "warn"
  | error => "error"
  | fatal => "fatal"
  | silent => "silent"

def ofName? (name : String) : Option Level := all.find? (·.name = name)

def shows (logger entry : Level) : Bool := logger.rank ≤ entry.rank

def shown (logger : Level) : List Level := all.filter fun level => level ≠ silent && logger.shows level

end Level

end TaskSync.Journal
