import JmapClient.Percent
import JmapClient.Url.Kind

/-!
# Characters in the parts of a URL

In each part of a URL some characters are written by their bytes: those that would end the part or be lost
on the way, control characters, and those outside ASCII. A `%` always stays, as it may stand for one that is
written so already.
-/

namespace JmapClient.Url

/-- Whether a character stays in a part of a URL where those of `barred` do not. -/
def stays (barred : List Char) (c : Char) : Bool :=
  0x20 ≤ c.toNat && c.toNat < 0x7F && !barred.contains c

/-- A part of a URL where the characters that may not stay are written by their bytes. -/
def encode (barred : List Char) (cs : List Char) : String :=
  String.ofList (Percent.encode (stays barred) (String.ofList cs))

/-- The characters that do not stay in a fragment. -/
def barredInFragments : List Char := [' ', '"', '<', '>', '\x60']

/-- The characters that do not stay in a path. -/
def barredInPaths : List Char := barredInFragments ++ ['#', '?', '\x7b', '\x7d']

/-- The characters that do not stay in a name or password. -/
def barredInCredentials : List Char := barredInPaths ++ ['/', ':', ';', '=', '@', '[', '\\', ']', '^', '|']

/-- The characters that do not stay in a query. -/
def barredInQueries (k : Kind) : List Char :=
  [' ', '"', '#', '<', '>'] ++ (if k = .other then [] else ['\x27'])

/-- What was encoded, if it is text. -/
def decoded? (cs : List Char) : Option String := Utf8.decode? (Percent.decode cs)

/-- What goes before a mark and, if it is there, what follows it. -/
def splitAt (mark : Char) (cs : List Char) : List Char × Option (List Char) :=
  match cs.span (· ≠ mark) with
  | (before, []) => (before, none)
  | (before, _ :: after) => (before, some after)

end JmapClient.Url
