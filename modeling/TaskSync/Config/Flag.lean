/-!
# Settings and flags

Every setting can be given by a flag on the command line or by a variable of the
environment.
-/

namespace TaskSync

inductive Setting where
  | listen
  | storage
  | dataDir
  | databaseUrl
  | allowClientIds
  | createClients
  | snapshotVersions
  | snapshotDays
  | versionRetention
  | maxBodyBytes
  | logLevel
  | logPretty
deriving DecidableEq

namespace Setting

/-- The name under which a flaw is reported. -/
def name : Setting → String
  | listen => "listen"
  | storage => "storage"
  | dataDir => "dataDir"
  | databaseUrl => "databaseUrl"
  | allowClientIds => "allowClientIds"
  | createClients => "createClients"
  | snapshotVersions => "snapshotVersions"
  | snapshotDays => "snapshotDays"
  | versionRetention => "versionRetention"
  | maxBodyBytes => "maxBodyBytes"
  | logLevel => "logLevel"
  | logPretty => "logPretty"

def variableName : Setting → String
  | listen => "LISTEN"
  | storage => "STORAGE"
  | dataDir => "DATA_DIR"
  | databaseUrl => "DATABASE_URL"
  | allowClientIds => "ALLOWED_CLIENT_IDS"
  | createClients => "CREATE_CLIENTS"
  | snapshotVersions => "SNAPSHOT_VERSIONS"
  | snapshotDays => "SNAPSHOT_DAYS"
  | versionRetention => "VERSION_RETENTION"
  | maxBodyBytes => "MAX_BODY_BYTES"
  | logLevel => "LOG_LEVEL"
  | logPretty => "LOG_PRETTY"

end Setting

/-- What a flag is followed by. -/
inductive Argument where
  /-- Nothing: the flag turns its setting on or off. -/
  | none (on : Bool)
  | one (placeholder : String)
  | many (placeholder : String)
deriving DecidableEq

structure Flag where
  setting : Setting
  short : Option Char
  long : String
  argument : Argument
  description : String
deriving DecidableEq

namespace Flag

def all : List Flag := [
  ⟨.listen, some 'l', "listen", .many "address", "HOST:PORT to listen on [env: LISTEN]"⟩,
  ⟨.storage, none, "storage", .one "kind", "sqlite, postgres or memory [env: STORAGE]"⟩,
  ⟨.dataDir, some 'd', "data-dir", .one "dir",
    "directory for the SQLite database [env: DATA_DIR]"⟩,
  ⟨.databaseUrl, none, "database-url", .one "url",
    "Postgres connection string [env: DATABASE_URL]"⟩,
  ⟨.allowClientIds, some 'C', "allow-client-id", .many "id",
    "client IDs to allow; all clients when absent [env: ALLOWED_CLIENT_IDS]"⟩,
  ⟨.createClients, none, "create-clients", .none true,
    "create unknown clients on first contact (default)"⟩,
  ⟨.createClients, none, "no-create-clients", .none false,
    "reject unknown clients [env: CREATE_CLIENTS=false]"⟩,
  ⟨.snapshotVersions, none, "snapshot-versions", .one "n",
    "target versions between snapshots [env: SNAPSHOT_VERSIONS]"⟩,
  ⟨.snapshotDays, none, "snapshot-days", .one "n",
    "target days between snapshots [env: SNAPSHOT_DAYS]"⟩,
  ⟨.versionRetention, none, "version-retention", .one "policy",
    "keep-all or prune-on-snapshot [env: VERSION_RETENTION]"⟩,
  ⟨.maxBodyBytes, none, "max-body-bytes", .one "n",
    "largest accepted request body [env: MAX_BODY_BYTES]"⟩,
  ⟨.logLevel, none, "log-level", .one "level", "pino log level [env: LOG_LEVEL]"⟩,
  ⟨.logPretty, none, "log-pretty", .none true, "human-readable logs [env: LOG_PRETTY]"⟩]

def takesValue (flag : Flag) : Bool :=
  match flag.argument with
  | .none _ => false
  | _ => true

def takesMany (flag : Flag) : Bool :=
  match flag.argument with
  | .many _ => true
  | _ => false

/-- The forms of a flag with its placeholder, as it is shown to the user. -/
def usage (flag : Flag) : String :=
  (match flag.short with
    | some letter => String.ofList ['-', letter] ++ ", "
    | none => "") ++ "--" ++ flag.long ++
  match flag.argument with
  | .none _ => ""
  | .one placeholder => " <" ++ placeholder ++ ">"
  | .many placeholder => " <" ++ placeholder ++ "...>"

def ofShort? (letter : Char) : Option Flag := all.find? (·.short = some letter)

/-- The flag that a word is the long form of. -/
def ofLong? (word : List Char) : Option Flag :=
  all.find? fun flag => word = '-' :: '-' :: flag.long.toList

def ofWord? (word : List Char) : Option Flag :=
  match word with
  | ['-', letter] => ofShort? letter
  | _ => ofLong? word

end Flag

end TaskSync
