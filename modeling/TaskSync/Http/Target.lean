import TaskSync.Http.Escape
import TaskSync.Text.Blank

/-!
# Request targets

The path that a target names. What stands before the first slash belongs to the
host, the query and the fragment are left out, dots are resolved, and a
backslash is a slash. What is escaped is read, except for the characters that
have a meaning of their own in a target.
-/

namespace TaskSync.Http

namespace Target

def isControl (c : Char) : Bool := c.toNat < 0x20

/-- The target without the characters that do not count: line breaks and tabs everywhere, blanks
and controls at the end. -/
def clean (cs : List Char) : List Char :=
  ((cs.reverse.dropWhile fun c => isControl c || c = ' ').reverse).filter fun c =>
    !(['\t', '\n', '\r'].contains c)

def isSlash (c : Char) : Bool := c = '/' || c = '\\'

def startsQuery (c : Char) : Bool := c = '?' || c = '#'

/-- The part of a target that is the path, with plain slashes. -/
def pathPart (cs : List Char) : List Char :=
  ((cs.dropWhile fun c => !isSlash c && !startsQuery c).takeWhile fun c => !startsQuery c).map
    fun c => if isSlash c then '/' else c

/-- The characters that are not written as they are in a path. -/
def isEscaped (c : Char) : Bool :=
  c.toNat ≤ 0x20 || 0x7F ≤ c.toNat ||
    ['"', '#', '<', '>', '?', '^', '\x60', '\x7b', '\x7d'].contains c

/-- A segment in which every dot is plain. -/
def plainDots : List Char → List Char
  | '%' :: '2' :: e :: rest =>
    if e = 'e' || e = 'E' then '.' :: plainDots rest else '%' :: '2' :: plainDots (e :: rest)
  | c :: rest => c :: plainDots rest
  | [] => []

def isHere (segment : List Char) : Bool := plainDots segment = ['.']

def isUp (segment : List Char) : Bool := plainDots segment = ['.', '.']

/-- Follows the segments after those already followed, the last of which comes first. -/
def follow (done : List (List Char)) : List (List Char) → List (List Char)
  | [] => done.reverse
  | segment :: rest =>
    let done :=
      if isUp segment then if rest.isEmpty then [] :: done.tail else done.tail
      else if isHere segment then if rest.isEmpty then [] :: done else done
      else segment :: done
    follow done rest

/-- The path with its segments followed and escaped. -/
def normalize (path : List Char) : List Char :=
  (follow [] (Text.fields '/' path.tail)).flatMap fun segment => '/' :: escape isEscaped segment

/-- The characters with a meaning of their own, which stay escaped in a path. -/
def isReserved (c : Char) : Bool := [';', '/', '?', ':', '@', '&', '=', '+', '$', ',', '#'].contains c

/-- Escapes the escape of the percent sign once more. -/
def doublePercent : List Char → List Char
  | '%' :: '2' :: '5' :: rest => '%' :: '2' :: '5' :: '2' :: '5' :: doublePercent rest
  | c :: rest => c :: doublePercent rest
  | [] => []

/-- The path of a target, as it is routed and logged. -/
def path (target : String) : List Char :=
  unescape isReserved (doublePercent (normalize (pathPart (clean target.toList))))

end Target

end TaskSync.Http
