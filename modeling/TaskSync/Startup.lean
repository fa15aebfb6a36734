import TaskSync.Config.Basic
import TaskSync.Config.Help
import TaskSync.Store.Pooled

/-!
# Starting the server

The server loads its configuration and opens its store. It ends before it
listens if one of the two fails, or if it was only asked for help.
-/

namespace TaskSync.Startup

/-- How the server ends before it listens. -/
structure Exit where
  code : Nat
  stdout : String := ""
  stderr : String := ""
deriving DecidableEq

/-- What the server is started with, or how it ends. -/
def start (words : List String) (environment : Config.Environment) : Except Exit Config :=
  match Config.load words environment with
  | .ok config => .ok config
  | .error (.usage .help) => .error { code := 0, stdout := Help.text }
  | .error error => .error { code := 2, stderr := error.message ++ "\n" }

/-- The end of a server whose store cannot be opened. The journal tells why. -/
def withoutStore : Exit := { code := 1 }

def databaseFile : String := "sync-server.sqlite3"

/-- The folders from the root to the file of a database, with dots resolved. -/
def databasePath (dataDir : String) : List String :=
  let enter (path : List String) (name : String) : List String :=
    if name = "" || name = "." then path else if name = ".." then path.dropLast else path ++ [name]
  ((Text.fields '/' dataDir.toList).map String.ofList).foldl enter [] ++ [databaseFile]

inductive Opened where
  | memory
  | embedded (dataDir : String)
  | pooled (options : Store.Pooled.Options)

def openStore (kind : StorageKind) (dataDir databaseUrl : Option String) :
    Except Failure Opened :=
  match kind with
  | .memory => .ok .memory
  | .sqlite =>
    match dataDir.filter (· ≠ "") with
    | some dataDir => .ok (.embedded dataDir)
    | none => .error (.plain "SqliteStorage needs either a dataDir or a database")
  | .postgres => (Store.Pooled.options { connectionString := databaseUrl }).map .pooled

end TaskSync.Startup
