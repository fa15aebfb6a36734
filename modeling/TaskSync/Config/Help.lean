import TaskSync.Config.Flag
import TaskSync.Text.Blank

/-!
# The help text

The flags in a column, and what they do in a second one, broken into lines so
that no line is longer than eighty characters.
-/

namespace TaskSync.Help

def lineWidth : Nat := 80

/-- Puts words into lines no longer than `width`, after the line that was begun. -/
def fill (width : Nat) (line : List Char) : List (List Char) → List (List Char)
  | [] => [line]
  | word :: rest =>
    if line.isEmpty then fill width word rest
    else if line.length + 1 + word.length ≤ width then fill width (line ++ ' ' :: word) rest
    else line :: fill width word rest

def items : List (String × String) :=
  Flag.all.map (fun flag => (flag.usage, flag.description)) ++
    [("-h, --help", "display help for command")]

/-- The width of the first column, with two blanks on each side. -/
def column : Nat := ((items.map (·.1.length)).max?.getD 0) + 4

def blanks (count : Nat) : List Char := List.replicate count ' '

def item (usage description : String) : List Char :=
  let lines := fill (lineWidth - column - 1) [] (Text.fields ' ' description.toList)
  let first := blanks 2 ++ usage.toList ++ blanks (column - 2 - usage.length)
  first ++ ('\n' :: blanks column).intercalate lines ++ ['\n']

def text : String :=
  "Usage: task-sync-server [options]\n\nSync server for encrypted task databases\n\nOptions:\n" ++
    String.ofList (items.flatMap fun (usage, description) => item usage description)

end TaskSync.Help
