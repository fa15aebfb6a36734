import TaskSync.Text.Blank

/-!
# Identifiers

An identifier is written as five groups of hexadecimal digits with hyphens
between them. Either case is read, and the lower case is the one form kept.
-/

namespace TaskSync.Uuid

def isHexDigit (c : Char) : Bool :=
  c.isDigit || ('a' ≤ c && c ≤ 'f') || ('A' ≤ c && c ≤ 'F')

def groups : List Nat := [8, 4, 4, 4, 12]

def isUuid (cs : List Char) : Bool :=
  let parts := Text.fields '-' cs
  parts.map List.length == groups && parts.all (·.all isHexDigit)

/-- The identifier in lower case, or nothing if the text is none. -/
def read? (s : String) : Option String :=
  if isUuid s.toList then some (String.ofList (s.toList.map Char.toLower)) else none

end TaskSync.Uuid
