import JmapClient.Idna
import JmapClient.Url.Address
import JmapClient.Url.Encoding

/-!
# Hosts

The host of a URL is a name or an address. Where the scheme says that hosts are on the net, a name is
brought into ASCII, and one that ends in a number is an IPv4 address. Other schemes give names a meaning of
their own, so they stay as they are.
-/

namespace JmapClient.Url

/-- A host. -/
inductive Host
  | name (text : String)
  /-- The address with these four bytes. -/
  | ipv4 (bytes : List Nat)
  /-- The address with these eight groups of 16 bits. -/
  | ipv6 (groups : List Nat)
deriving DecidableEq, Repr

namespace Host

/-- The text of a host. -/
def text : Host → String
  | name s => s
  | ipv4 bytes => ipv4Text bytes
  | ipv6 groups => "[" ++ ipv6Text groups ++ "]"

/-- The characters that have a meaning in URLs, so that no name has them. -/
def delimiters : List Char := [' ', '#', '/', ':', '<', '>', '?', '@', '[', '\\', ']', '^', '|']

/-- Whether a character may be in a name on the net that is in ASCII. -/
def isAllowed (c : Char) : Bool := 0x20 < c.toNat && c.toNat ≠ 0x7F && c ≠ '%' && !delimiters.contains c

/-- An address up to a closing bracket. -/
def bracketed? (cs : List Char) : Option Host :=
  if cs.getLast? = some ']' then (ipv6? cs.dropLast).map ipv6 else none

/-- A host on the net. Bytes that are encoded are part of the name. -/
def ofNet? : List Char → Option Host
  | '[' :: cs => bracketed? cs
  | cs => do
    let ascii ← Idna.ascii? (← decoded? cs).toList
    if ascii.isEmpty || !ascii.all isAllowed then none
    else if endsInNumber ascii then (ipv4? ascii).map ipv4
    else some (name (String.ofList ascii))

/-- A host whose name has a meaning to its scheme only. -/
def ofOpaque? : List Char → Option Host
  | '[' :: cs => bracketed? cs
  | cs =>
    if cs.any fun c => c = Char.ofNat 0 || delimiters.contains c then none
    else some (name (encode [] cs))

/-- A host in a URL of a kind. Only a name that is no name on the net may be left empty. -/
def ofText? (k : Kind) (cs : List Char) : Option (Option Host) :=
  if k ≠ .other then (ofNet? cs).map some
  else if cs.isEmpty then some none
  else (ofOpaque? cs).map some

/-- Whether a request can name the host. Names on the net may have characters that it cannot write. -/
def isSendable (h : Host) : Bool := !h.text.toList.any ['"', '\x60', '\x7b', '\x7d'].contains

end Host

end JmapClient.Url
