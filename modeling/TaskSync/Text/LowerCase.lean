import TaskSync.Text.LetterCase

/-!
# Lower case

The lower case of a text, for every script. Two letters need more than a table:
the capital I with a dot becomes two characters, and a capital sigma becomes the
final form at the end of a word.
-/

namespace TaskSync.Text

def CaseRun.covers (run : CaseRun) (c : Char) : Bool :=
  run.first ≤ c.toNat && c.toNat ≤ run.last && (c.toNat - run.first) % run.step == 0

def lowerChar (c : Char) : Char :=
  match lowerRuns.find? (·.covers c) with
  | some run => Char.ofNat (c.toNat + run.distance).toNat
  | none => c

/-- Whether the first character that is not passed over is a letter with a case. -/
def meetsLetter (cs : List Char) : Bool :=
  (cs.dropWhile (inRanges passedRanges)).head?.any (inRanges casedRanges)

/-- What stands for a letter between the text before it, read backwards, and the text after it. -/
def lowerAt (before : List Char) (c : Char) (after : List Char) : List Char :=
  if c = '\u0130' then ['i', '\u0307']
  else if c = '\u03a3' then
    if meetsLetter before && !meetsLetter after then ['\u03c2'] else ['\u03c3']
  else [lowerChar c]

def lowerFrom (before : List Char) : List Char → List Char
  | [] => []
  | c :: after => lowerAt before c after ++ lowerFrom (c :: before) after

def lower (s : String) : String := String.ofList (lowerFrom [] s.toList)

end TaskSync.Text
