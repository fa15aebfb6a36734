import Std.Time.DateTime.Timestamp
import TaskSync.Http.Wire
import TaskSync.Startup
import TaskSync.Store.Embedded
import TaskSync.Store.Memory

/-!
# The server program

Serves one connection on standard input and output. What is stored is kept as
long as the program runs.
-/

namespace TaskSync.Server

open Store

inductive Holding where
  | memory (state : Memory)
  | embedded (state : Database)
  | unreachable

def hold : Startup.Opened → Holding
  | .memory => .memory .empty
  | .embedded _ => .embedded .empty
  | .pooled _ => .unreachable

def now : IO Number := do
  let time ← Std.Time.Timestamp.now
  return .round time.toMillisecondsSinceUnixEpoch.val

def callStore (holding : IO.Ref Holding) (call : Call) : IO (Except Failure call.Reply) := do
  let time ← now
  match ← holding.get with
  | .memory state =>
    let (reply, state) := state.call time call
    holding.set (.memory state)
    return reply
  | .embedded state =>
    let (reply, state) := Embedded.call time call [] state
    holding.set (.embedded state)
    return reply
  | .unreachable => return .error (.storage "error connecting to database" .absent)

/-- A fresh id, with the marks of a random one. -/
def freshId : IO String := do
  let random ← IO.getRandomBytes 16
  let bytes := random.toList.zipIdx.map fun (b, i) =>
    if i = 6 then b % 16 + 0x40 else if i = 8 then b % 64 + 0x80 else b
  let digits := bytes.flatMap fun b =>
    [Nat.digitChar (b.toNat / 16), Nat.digitChar (b.toNat % 16)]
  let cuts := [digits.take 8, (digits.drop 8).take 4, (digits.drop 12).take 4,
    (digits.drop 16).take 4, digits.drop 20]
  return String.ofList (['-'].intercalate cuts)

def noteOn (level : Journal.Level) (entry : Journal.Entry) : IO Unit := do
  if level.shows entry.level then
    let fields := entry.fields.map fun (name, value) =>
      name ++ "=" ++ match value with
        | .text text => text
        | .number number => number.text
        | .failure kind message => kind ++ ": " ++ message
    IO.eprintln (" ".intercalate (entry.level.name :: entry.message :: fields))

/-- Answers what the application asks. -/
def respond (level : Journal.Level) (holding : IO.Ref Holding) :
    (question : Ask) → IO question.Answer
  | .store call => callStore holding call
  | .freshId => freshId
  | .now => now
  | .stopwatch => return .ofNat (← IO.monoMsNow)
  | .note entry => noteOn level entry

partial def readHeaders (input : IO.FS.Stream) : IO (List (String × String)) := do
  match Http.Wire.header? (← input.getLine) with
  | some header => return header :: (← readHeaders input)
  | none => return []

partial def readBytes (input : IO.FS.Stream) (count : Nat) : IO Bytes := do
  if count = 0 then return []
  let bytes := (← input.read (USize.ofNat count)).toList
  if bytes.isEmpty then return []
  return bytes ++ (← readBytes input (count - bytes.length))

partial def readChunks (input : IO.FS.Stream) : IO (List Bytes) := do
  let length := Http.Wire.chunkLength (← input.getLine)
  let bytes ← readBytes input length
  let _ ← input.getLine
  if length = 0 then return []
  return bytes :: (← readChunks input)

def readBody (input : IO.FS.Stream) (headers : List (String × String)) : IO Http.Body := do
  match Http.Wire.framing (.ofList headers) with
  | .absent => return .absent
  | .sized length => return .whole (← readBytes input length)
  | .chunked => return .chunks (← readChunks input)

partial def serve (app : Http.App) (level : Journal.Level) (holding : IO.Ref Holding)
    (input output : IO.FS.Stream) : IO Unit := do
  match Http.Wire.requestLine? (← input.getLine) with
  | none => return
  | some (method, target) =>
    let headers ← readHeaders input
    let body ← readBody input headers
    let response ← (app.respond (.receive method target headers body)).run (respond level holding)
    output.write (ByteArray.mk (Http.Wire.write response).toArray)
    output.flush
    serve app level holding input output

def readEnvironment : IO Config.Environment := do
  let settings : List Setting := [.listen, .storage, .dataDir, .databaseUrl, .allowClientIds,
    .createClients, .snapshotVersions, .snapshotDays, .versionRetention, .maxBodyBytes, .logLevel,
    .logPretty]
  let values ← settings.mapM fun setting => do
    return (← IO.getEnv setting.variableName).map ((setting.variableName, ·))
  return values.filterMap id

def finish (exit : Startup.Exit) : IO UInt32 := do
  IO.print exit.stdout
  IO.eprint exit.stderr
  return UInt32.ofNat exit.code

end TaskSync.Server

open TaskSync Server in
def main (words : List String) : IO UInt32 := do
  match Startup.start words (← readEnvironment) with
  | .error exit => finish exit
  | .ok config =>
    match Startup.openStore config.storage (some config.dataDir) config.databaseUrl with
    | .error _ => finish Startup.withoutStore
    | .ok opened =>
      let holding ← IO.mkRef (hold opened)
      serve config.app config.logLevel holding (← IO.getStdin) (← IO.getStdout)
      return 0
