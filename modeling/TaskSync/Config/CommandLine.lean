import TaskSync.Config.Flag
import TaskSync.Text.Similar

/-!
# The command line

How the words of a command line are read. A flag takes the word after it as its
value whatever that looks like, or what stands behind `=` or right behind its
letter. A flag of many values takes every word up to the next one that looks
like a flag. Words that belong to no flag are left alone, but a word that looks
like a flag and is none is an error, unless help is asked for.
-/

namespace TaskSync

inductive Given where
  | text (setting : Setting) (value : String)
  | switch (setting : Setting) (on : Bool)
deriving DecidableEq

inductive UsageError where
  | missingArgument (flag : Flag)
  | unknownOption (word : String)
  | help
deriving DecidableEq

namespace CommandLine

def looksLikeFlag : List Char → Bool
  | '-' :: _ :: _ => true
  | _ => false

def switched (flag : Flag) : Given :=
  match flag.argument with
  | .none on => .switch flag.setting on
  | _ => .switch flag.setting true

/-- A flag with its value in the same word. -/
def joined? (word : List Char) : Option Given :=
  let short? : Option Given := match word with
    | '-' :: letter :: value =>
      if letter = '-' || value.isEmpty then none
      else (Flag.ofShort? letter).map fun flag => Given.text flag.setting (String.ofList value)
    | _ => none
  let long? : Option Given := match word.dropWhile (· ≠ '=') with
    | '=' :: value =>
      ((Flag.ofLong? (word.takeWhile (· ≠ '='))).filter (·.takesValue)).map fun flag =>
        Given.text flag.setting (String.ofList value)
    | _ => none
  short?.or long?

/-- What the words of a command line come to. -/
structure Reading where
  given : List Given := []
  /-- The first word that looks like a flag and is none, and the words left over from there on. -/
  strays : List String := []
deriving DecidableEq

namespace Reading

def addGiven (given : Given) (reading : Reading) : Reading :=
  { reading with given := given :: reading.given }

def addStray (word : String) (reading : Reading) : Reading :=
  { reading with strays := word :: reading.strays }

end Reading

/-- Reads the words after a flag of many values, if `many` is one, and after a stray word, if
`strayed` holds. -/
def readWords (many : Option Flag) (strayed : Bool) : List String → Except UsageError Reading
  | [] => .ok {}
  | word :: rest =>
    let letters := word.toList
    if word = "--" then .ok { strays := if strayed then word :: rest else [] }
    else if !looksLikeFlag letters then
      match many with
      | some flag => (readWords many strayed rest).map (·.addGiven (.text flag.setting word))
      | none =>
        if strayed then (readWords none true rest).map (·.addStray word)
        else readWords none false rest
    else
      match Flag.ofWord? letters with
      | some flag =>
        if flag.takesValue then
          match rest with
          | [] => .error (.missingArgument flag)
          | value :: rest =>
            (readWords (if flag.takesMany then some flag else none) strayed rest).map
              (·.addGiven (.text flag.setting value))
        else (readWords none strayed rest).map (·.addGiven (switched flag))
      | none =>
        match joined? letters with
        | some given => (readWords none strayed rest).map (·.addGiven given)
        | none => (readWords none true rest).map (·.addStray word)

def read (words : List String) : Except UsageError (List Given) := do
  let reading ← readWords none false words
  if reading.strays.any fun word => word = "-h" || word = "--help" then .error .help
  else
    match reading.strays with
    | [] => return reading.given
    | word :: _ => .error (.unknownOption word)

end CommandLine

/-! ## Messages -/

namespace UsageError

/-- The long forms of all flags, without the hyphens. -/
def longNames : List String := Flag.all.map (·.long) ++ ["help"]

/-- Asks whether a similar flag was meant. -/
def suggestion (word : String) : String :=
  match word.toList with
  | '-' :: '-' :: name =>
    match (Text.similar (String.ofList name) longNames).map ("--" ++ ·) with
    | [] => ""
    | [one] => "\n(Did you mean " ++ one ++ "?)"
    | several => "\n(Did you mean one of " ++ ", ".intercalate several ++ "?)"
  | _ => ""

def message : UsageError → String
  | missingArgument flag => "error: option '" ++ flag.usage ++ "' argument missing"
  | unknownOption word => "error: unknown option '" ++ word ++ "'" ++ suggestion word
  | help => "(outputHelp)"

/-- Asking for help is no mistake. -/
def exitCode : UsageError → Nat
  | help => 0
  | _ => 1

end UsageError

end TaskSync
