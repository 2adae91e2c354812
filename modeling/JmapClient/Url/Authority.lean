import JmapClient.Url.Host

/-!
# Authorities

An authority says who answers for what a URL names: a host and a port, and before an `@` the name and the
password to give there.
-/

namespace JmapClient.Url

/-- Who answers for what a URL names. -/
structure Authority where
  /-- The name and the password to give, in the form in which they stand in the URL. -/
  username : String
  password : Option String
  /-- The host, unless it is left empty. -/
  host : Option Host
  /-- The port, if it is not the usual one. -/
  port : Option Nat
deriving DecidableEq, Repr

namespace Authority

/-- The authority with a host only, or with nothing at all. -/
def ofHost (host : Option Host) : Authority := ⟨"", none, host, none⟩

/-- Whether it says who asks. -/
def hasCredentials (a : Authority) : Bool := a.username ≠ "" || a.password.isSome

/-- The text of an authority. -/
def text (a : Authority) : String :=
  (if a.hasCredentials then
    a.username ++ (match a.password with
      | some p => ":" ++ p
      | none => "") ++ "@"
  else "") ++
    (match a.host with
    | some h => h.text
    | none => "") ++
    (match a.port with
    | some n => ":" ++ toString n
    | none => "")

/-- The authority without name and password, if there is a name or a password to take out. A name that is
no text is not taken out, and neither is a password alone that is none. -/
def withoutCredentials (a : Authority) : Authority :=
  let hasPassword := (a.password.bind fun p => decoded? p.toList).isSome
  if (decoded? a.username.toList).isSome ∧ (a.username ≠ "" ∨ hasPassword) then
    { a with username := "", password := none }
  else a

/-- Name and password of an authority, and what follows the last `@`. -/
def spanCredentials (cs : List Char) : Option (List Char) × List Char :=
  match cs.reverse.span (· ≠ '@') with
  | (place, []) => (none, place.reverse)
  | (place, _ :: credentials) => (some credentials.reverse, place.reverse)

/-- The host at the beginning, up to a colon outside brackets, and what follows it. -/
def spanHost (isInside : Bool) : List Char → List Char × List Char
  | [] => ([], [])
  | c :: cs =>
    if c = ':' ∧ !isInside then ([], c :: cs)
    else
      let (host, rest) := spanHost (c = '[' || (isInside && c ≠ ']')) cs
      (c :: host, rest)

/-- The port behind a colon, none if it is left empty. Only a backslash may follow it. -/
def port? : List Char → Option (Option Nat × List Char)
  | [] => some (none, [])
  | _ :: cs => do
    let (digits, rest) := cs.span Char.isDigit
    let n ← number? 10 digits
    if n < 65536 ∧ (rest.isEmpty ∨ rest.head? = some '\\') then
      some (if digits.isEmpty then none else some n, rest)
    else none

/-- Reads an authority, which goes to the end of the URL if `isLast`. A backslash behind the port is handed back with
what follows, and only an empty name may stand without a host, at the end of the URL. -/
def ofText? (k : Kind) (isLast : Bool) (cs : List Char) : Option (Authority × List Char) := do
  let (credentials, place) := spanCredentials cs
  let (username, password) := splitAt ':' (credentials.getD [])
  let password := password.filter fun cs => !cs.isEmpty
  let (name, rest) := spanHost false place
  let host ← Host.ofText? k name
  let (port, afterPort) ← port? rest
  let a : Authority :=
    ⟨encode barredInCredentials username, password.map (encode barredInCredentials), host,
      port.filter fun n => k ≠ .net n⟩
  let isLone := credentials = some [] ∧ place.isEmpty ∧ !isLast
  if host.isNone ∧ (a.hasCredentials ∨ !rest.isEmpty ∨ isLone) then none else some (a, afterPort)

end Authority

end JmapClient.Url
