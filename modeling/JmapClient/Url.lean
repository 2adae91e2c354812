import JmapClient.Url.Authority
import JmapClient.Url.Path

/-!
# URLs

`Url.ofText?` reads the URLs that requests go to and `Url.text` writes them in their normal form: scheme and
host in lower case, no port that is the usual one, a path without dots to follow, and no characters that may
not stand in a URL.
-/

namespace JmapClient

open Url (Authority Host Kind)

/-- A URL. Every part is in the form in which it stands in the text. -/
structure Url where
  scheme : String
  authority : Option Authority
  path : String
  query : Option String
  fragment : Option String
deriving DecidableEq, Repr

namespace Url

/-- Whether a character is a control character or a space. -/
def isEdge (c : Char) : Bool := c.toNat ≤ 0x20

/-- A text without control characters and spaces at its ends, and without tabs and line breaks. -/
def clean (cs : List Char) : List Char :=
  (((cs.dropWhile isEdge).reverse.dropWhile isEdge).reverse).filter fun c =>
    c ≠ '\t' ∧ c ≠ '\n' ∧ c ≠ '\r'

/-- The scheme of a URL and what follows its colon. -/
def scheme? (cs : List Char) : Option (String × List Char) :=
  match cs.span (· ≠ ':') with
  | (c :: name, _ :: rest) =>
    if c.isAlpha && name.all fun c => c.isAlphanum || c = '+' || c = '-' || c = '.' then
      some (String.ofList ((c :: name).map Char.toLower), rest)
    else none
  | _ => none

/-- What stands between the scheme of a URL and its query. -/
structure Front where
  authority : Option Authority
  path : String

/-- Reads an authority and the path after it. -/
def Front.ofAuthority? (k : Kind) (isLast : Bool) (cs : List Char) : Option Front := do
  let (place, path) := cs.span fun c => c ≠ '/' ∧ (k = .other ∨ c ≠ '\\')
  let (authority, rest) ← Authority.ofText? k (isLast && path.isEmpty) place
  let path := rest ++ path
  return ⟨authority, if k = .other ∧ path.isEmpty then "" else pathText (segments k path)⟩

/-- The path of a file, on a host if it has one. Slashes at its beginning count as one. -/
def Front.ofPath (host : Option Host) (path : List Char) : Front :=
  let all := segments .file path
  let host := if host = some (.name "localhost") ∨ all.head?.any isDrive then none else host
  let shown := all.dropWhile List.isEmpty
  ⟨some (.ofHost host), pathText (if shown.isEmpty then [[]] else shown)⟩

/-- Reads the name of a file. The machine itself is no host, and a drive is on no other. -/
def Front.ofFile? (cs : List Char) : Option Front :=
  match Kind.file.slashed cs with
  | '/' :: '/' :: rest =>
    let (host, path) := rest.span (· ≠ '/')
    if isDrive host then some (.ofPath none rest)
    else if host.isEmpty then some (.ofPath none path)
    else (Host.ofNet? host).map fun host => .ofPath (some host) path
  | rest => some (.ofPath none rest)

/-- Reads what stands between the scheme of a URL and its query. Nothing follows it if `isLast`. -/
def front? (k : Kind) (isLast : Bool) (cs : List Char) : Option Front :=
  match k, cs with
  | .file, cs => Front.ofFile? cs
  | .net _, cs => Front.ofAuthority? k isLast (cs.dropWhile fun c => c = '/' ∨ c = '\\')
  | .other, '/' :: '/' :: cs => Front.ofAuthority? k isLast cs
  | .other, '/' :: cs => some ⟨none, pathText (segments k cs)⟩
  | .other, cs => some ⟨none, encode [] cs⟩

/-- Reads a URL. -/
def ofText? (text : String) : Option Url := do
  let (scheme, rest) ← scheme? (clean text.toList)
  let k := Kind.ofScheme scheme
  let (rest, fragment) := splitAt '#' rest
  let (rest, query) := splitAt '?' rest
  let front ← front? k (query.isNone && fragment.isNone) rest
  return {
    scheme
    authority := front.authority
    path := front.path
    query := query.map (encode (barredInQueries k))
    fragment := fragment.map (encode barredInFragments) }

/-- The text of a URL. A path that would be taken for an authority begins with a dot. -/
def text (u : Url) : String :=
  u.scheme ++ ":" ++
    (match u.authority with
    | some a => "//" ++ a.text
    | none => if u.path.startsWith "//" then "/." else "") ++ u.path ++
    (match u.query with
    | some s => "?" ++ s
    | none => "") ++
    (match u.fragment with
    | some s => "#" ++ s
    | none => "")

/-- The host of a URL. -/
def host? (u : Url) : Option Host := u.authority.bind Authority.host

/-- A URL without name and password. -/
def withoutCredentials (u : Url) : Url := { u with authority := u.authority.map Authority.withoutCredentials }

/-- The longest text, in bytes, that requests can name a URL by. -/
def longest : Nat := 65534

/-- Whether requests can be sent to it. -/
def isSendable (u : Url) : Bool :=
  (u.scheme = "http" || u.scheme = "https") && u.host?.any Host.isSendable && u.text.utf8ByteSize ≤ longest

end Url

end JmapClient
