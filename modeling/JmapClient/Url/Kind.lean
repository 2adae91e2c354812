/-!
# Kinds of URLs

A scheme says what follows it: the name of a host on the net, a file, or anything at all.
-/

namespace JmapClient.Url

/-- What a scheme says about the form of its URLs. -/
inductive Kind
  /-- They name a host on the net, and a port unless it is this one. -/
  | net (port : Nat)
  /-- They name a file. -/
  | file
  /-- They may have any form. -/
  | other
deriving DecidableEq, Repr

namespace Kind

/-- The kind of a scheme. -/
def ofScheme (scheme : String) : Kind :=
  if scheme = "http" ∨ scheme = "ws" then net 80
  else if scheme = "https" ∨ scheme = "wss" then net 443
  else if scheme = "ftp" then net 21
  else if scheme = "file" then file
  else other

/-- A text with a slash for each character that separates the segments of a path. -/
def slashed (k : Kind) (cs : List Char) : List Char :=
  if k = other then cs else cs.map fun c => if c = '\\' then '/' else c

end Kind

end JmapClient.Url
