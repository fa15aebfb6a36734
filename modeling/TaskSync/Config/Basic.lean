import TaskSync.Config.Address
import TaskSync.Config.Checked
import TaskSync.Config.CommandLine
import TaskSync.Engine
import TaskSync.Http.App
import TaskSync.Journal.Level
import TaskSync.Text.LowerCase
import TaskSync.Uuid

/-!
# The configuration

The settings that the server starts with. A flag counts before the variable of
the same setting, and a setting that is not given has a default. Everything that
is wrong is reported at once.
-/

namespace TaskSync

inductive StorageKind where
  | sqlite
  | postgres
  | memory
deriving DecidableEq

def StorageKind.name : StorageKind → String
  | sqlite => "sqlite"
  | postgres => "postgres"
  | memory => "memory"

structure Config where
  listen : List Address
  storage : StorageKind
  dataDir : String
  databaseUrl : Option String
  allowClientIds : List String
  createClients : Bool
  snapshotVersions : Number
  snapshotDays : Number
  retention : Retention
  maxBodyBytes : Number
  logLevel : Journal.Level
  logPretty : Bool
deriving DecidableEq

namespace Config

abbrev Environment := List (String × String)

/-! ## What is given -/

/-- A setting that is turned on or off, or a text that says neither. -/
inductive Switch where
  | set (on : Bool)
  | unclear (text : String)
deriving DecidableEq

def Switch.read (text : String) : Switch :=
  let word := Text.lower (Text.trim text)
  if ["1", "true", "yes", "on"].contains word then .set true
  else if ["0", "false", "no", "off"].contains word then .set false
  else .unclear text

structure Sources where
  flags : List Given
  environment : Environment

namespace Sources

def environment? (sources : Sources) (setting : Setting) : Option String :=
  (sources.environment.find? (·.1 = setting.variableName)).map (·.2)

def flagTexts (sources : Sources) (setting : Setting) : List String :=
  sources.flags.filterMap fun given =>
    match given with
    | .text s value => if s = setting then some value else none
    | .switch .. => none

/-- The last flag counts. -/
def text? (sources : Sources) (setting : Setting) : Option String :=
  (sources.flagTexts setting).getLast?.or (sources.environment? setting)

/-- The entries of all flags count. -/
def list? (sources : Sources) (setting : Setting) : Option (List String) :=
  match sources.flagTexts setting with
  | [] => (sources.environment? setting).map Text.entries
  | texts => some (texts.flatMap Text.entries)

def switch? (sources : Sources) (setting : Setting) : Option Switch :=
  let flags := sources.flags.filterMap fun given =>
    match given with
    | .switch s on => if s = setting then some (Switch.set on) else none
    | .text .. => none
  flags.getLast?.or ((sources.environment? setting).map Switch.read)

end Sources

/-! ## Rules -/

open Checked (good broken unusable)

def checkListen (entries : Option (List String)) : Checked (List Address) :=
  let place := Setting.listen.name
  match entries with
  | none => good [⟨"localhost", 8080⟩]
  | some [] => broken place "Array must contain at least 1 element(s)"
  | some entries =>
    Checked.list (fun i entry =>
      match Address.read? entry with
      | some address => good address
      | none =>
        broken (place ++ "." ++ toString i) ("expected HOST:PORT, got \"" ++ entry ++ "\"")) 0 entries

def checkIds (entries : Option (List String)) : Checked (List String) :=
  Checked.list (fun i entry =>
    match Uuid.read? entry with
    | some id => good id
    | none => broken (Setting.allowClientIds.name ++ "." ++ toString i) "must be a UUID") 0
    (entries.getD [])

/-- A setting with a choice of values, each under its name. -/
def checkChoice {α : Type} (setting : Setting) (choices : List (String × α)) (default : α)
    (text : Option String) : Checked α :=
  match text with
  | none => good default
  | some text =>
    match choices.find? (·.1 = text) with
    | some choice => good choice.2
    | none =>
      let names := " | ".intercalate (choices.map fun choice => "'" ++ choice.1 ++ "'")
      unusable setting.name
        ("Invalid enum value. Expected " ++ names ++ ", received '" ++ text ++ "'")

/-- A setting that is any text but the empty one. -/
def checkText {α : Type} (setting : Setting) (use : String → α) (default : α)
    (text : Option String) : Checked α :=
  match text with
  | none => good default
  | some "" => broken setting.name "String must contain at least 1 character(s)"
  | some text => good (use text)

def checkCount (setting : Setting) (default : Number) (text : Option String) : Checked Number :=
  match text with
  | none => good default
  | some text =>
    let number := Number.read text
    if number.isNaN then unusable setting.name "Expected number, received nan"
    else
      Checked.ofRules number
        ((if number.isInteger then [] else [⟨setting.name, "Expected integer, received float"⟩]) ++
          if Number.lt 0 number then [] else [⟨setting.name, "Number must be greater than 0"⟩])

def checkSwitch (setting : Setting) (default : Bool) (switch : Option Switch) : Checked Bool :=
  match switch with
  | none => good default
  | some (.set on) => good on
  | some (.unclear _) => unusable setting.name "Expected boolean, received string"

def storageChoices : List (String × StorageKind) :=
  [.sqlite, .postgres, .memory].map fun kind => (kind.name, kind)

def retentionChoices : List (String × Retention) :=
  [.keepAll, .pruneOnSnapshot].map fun retention => (retention.name, retention)

def levelChoices : List (String × Journal.Level) :=
  Journal.Level.all.map fun level => (level.name, level)

/-- The flaw of a database server without an address. -/
def missingUrl (sources : Sources) : List Flaw :=
  let url := (sources.text? .databaseUrl).getD ""
  if sources.text? .storage = some StorageKind.postgres.name ∧ url = "" then
    [⟨Setting.databaseUrl.name, "is required when storage is postgres"⟩]
  else []

def check (sources : Sources) : Checked Config :=
  let fields := (checkListen (sources.list? .listen)).map Config.mk
    |>.and (checkChoice .storage storageChoices .sqlite (sources.text? .storage))
    |>.and (checkText .dataDir id "./data" (sources.text? .dataDir))
    |>.and (checkText .databaseUrl some none (sources.text? .databaseUrl))
    |>.and (checkIds (sources.list? .allowClientIds))
    |>.and (checkSwitch .createClients true (sources.switch? .createClients))
    |>.and (checkCount .snapshotVersions 100 (sources.text? .snapshotVersions))
    |>.and (checkCount .snapshotDays 14 (sources.text? .snapshotDays))
    |>.and (checkChoice .versionRetention retentionChoices .keepAll
      (sources.text? .versionRetention))
    |>.and (checkCount .maxBodyBytes Http.defaultMaxBody (sources.text? .maxBodyBytes))
    |>.and (checkChoice .logLevel levelChoices .info (sources.text? .logLevel))
    |>.and (checkSwitch .logPretty false (sources.switch? .logPretty))
  fields.alsoFlawed (missingUrl sources)

/-! ## Loading -/

inductive LoadError where
  | usage (error : UsageError)
  | invalid (flaws : List Flaw)
deriving DecidableEq

def LoadError.message : LoadError → String
  | usage error => error.message
  | invalid flaws => "Invalid configuration: " ++ "; ".intercalate (flaws.map Flaw.text)

def load (words : List String) (environment : Environment) : Except LoadError Config :=
  match CommandLine.read words with
  | .error error => .error (.usage error)
  | .ok flags =>
    match check ⟨flags, environment⟩ with
    | .good config => .ok config
    | .flawed flaws _ => .error (.invalid flaws)

def app (config : Config) : Http.App where
  engine := ⟨⟨config.snapshotVersions, config.snapshotDays⟩, config.createClients, config.retention⟩
  allowlist := .ofList config.allowClientIds
  maxBody := config.maxBodyBytes

end Config

end TaskSync
