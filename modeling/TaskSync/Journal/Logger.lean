import TaskSync.Failure
import TaskSync.Journal.Level

/-!
# Loggers

A logger has a level and fields that every entry repeats. A child has the
fields of its parent and its own.
-/

namespace TaskSync.Journal

structure Logger (α : Type) where
  level : Level
  fields : List (String × α)

namespace Logger

variable {α : Type}

/-- The service that entries name unless other fields are set. -/
def service : String := "task-sync-server"

/-- The names that a logger keeps for itself. -/
def reserved : List String :=
  ["level", "serializers", "formatters", "customLevels", "pid", "hostname"]

/-- Adds fields. A field that is there already is replaced. -/
def addFields (fields added : List (String × α)) : List (String × α) :=
  let added := added.filter fun field => !reserved.contains field.1
  (fields.filter fun field => !(added.map (·.1)).contains field.1) ++ added

def create (level : String) (fields : List (String × α)) : Except Failure (Logger α) :=
  match Level.ofName? level with
  | some level => .ok ⟨level, addFields [] fields⟩
  | none => .error (.plain ("default level:" ++ level ++ " must be included in custom levels"))

def child (logger : Logger α) (fields : List (String × α)) : Logger α :=
  { logger with fields := addFields logger.fields fields }

end Logger

end TaskSync.Journal
