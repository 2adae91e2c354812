import JmapClient.Credentials
import JmapClient.Failure
import JmapClient.Toml.Document

/-!
# Settings

What a user has set: where the server is and how to show who he is. Settings are kept in a file
(`Settings.text`, `Settings.ofText?`), and variables of the environment go before what the file tells
(`Settings.overriddenBy`).
-/

namespace JmapClient

/-- What a user has set. -/
structure Settings where
  /-- Where sessions are fetched. -/
  sessionUrl : Option String
  /-- The domain whose servers are looked for where no `sessionUrl` is set. -/
  domain : Option String
  /-- Goes before `username` and `password`. -/
  token : Option String
  username : Option String
  password : Option String
deriving DecidableEq, Repr

namespace Settings

/-- Nothing is set. -/
def empty : Settings := ⟨none, none, none, none, none⟩

instance : EmptyCollection Settings := ⟨empty⟩

/-! ### The file -/

/-- A line that sets `key`, if it is set. -/
def line (key : String) : Option String → String
  | some value => key ++ " = " ++ String.ofList (Toml.Text.print value.toList) ++ "\n"
  | none => ""

/-- The text of the file. -/
def text (s : Settings) : String :=
  "[server]\n" ++ line "session_url" s.sessionUrl ++ line "domain" s.domain ++ "\n[auth]\n" ++
    line "token" s.token ++ line "username" s.username ++ line "password" s.password

/-- The rights to the file: its owner may read and write it, and no one else anything. -/
def fileMode : Nat := 0o600

/-- A part of the file: values by their keys, or in the order of the keys. -/
inductive Section
  | named (t : Toml.Table)
  | listed (items : List Toml.Value)

namespace Section

/-- The section that a value makes. A date has none of the keys. -/
def ofValue? : Option Toml.Value → Option Section
  | none => some (.named [])
  | some (.table _ t) => some (.named t)
  | some (.moment _) => some (.named [])
  | some (.array items) => some (.listed items)
  | some (.tables ts) => some (.listed (ts.map (.table .headed)))
  | some _ => none

/-- The value of the `key` that is the `index`-th of the section. -/
def find? (s : Section) (index : Nat) (key : String) : Option Toml.Value :=
  match s with
  | named t => t.find? key
  | listed items => items[index]?

/-- The text that `key` is set to, if it is set. Fails if it is set to something else. -/
def text? (s : Section) (index : Nat) (key : String) : Option (Option String) :=
  match s.find? index key with
  | none => some none
  | some (.text value) => some (some value)
  | some _ => none

end Section

/-- Whether the numbers in a section are in range. What a list has beyond the keys is not looked at. -/
def Section.isInRange : Section → Bool
  | named t => Toml.entriesInRange t
  | listed _ => true

/-- Reads the text of the file. Numbers must be in range, also those that set nothing. -/
def ofText? (text : String) : Option Settings := do
  let t ← Toml.Table.ofText? text
  let server ← Section.ofValue? (t.find? "server")
  let auth ← Section.ofValue? (t.find? "auth")
  let others := t.filter fun e => e.1 ≠ "server" ∧ e.1 ≠ "auth"
  guard (server.isInRange && auth.isInRange && Toml.entriesInRange others)
  return ⟨← server.text? 0 "session_url", ← server.text? 1 "domain", ← auth.text? 0 "token",
    ← auth.text? 1 "username", ← auth.text? 2 "password"⟩

/-- The settings that the `content` of a file tells. -/
def ofContent (content : Bytes) : Except Failure Settings :=
  match Utf8.decode? content with
  | none => .error (.file .notText)
  | some text =>
    match ofText? text with
    | none => .error .brokenSettings
    | some s => .ok s

/-! ### The environment -/

/-- The settings where the variables `var` of the environment go before them. -/
def overriddenBy (var : String → Option String) (s : Settings) : Settings where
  sessionUrl := var "JMAP_SESSION_URL" <|> s.sessionUrl
  domain := var "JMAP_DOMAIN" <|> s.domain
  token := var "JMAP_TOKEN" <|> s.token
  username := var "JMAP_USERNAME" <|> s.username
  password := var "JMAP_PASSWORD" <|> s.password

/-! ### Connecting -/

/-- What to show the server. -/
def credentials (s : Settings) : Except Failure Credentials :=
  match s.token, s.username, s.password with
  | some token, _, _ => .ok (.token token)
  | none, some username, some password => .ok (.password username password)
  | _, _, _ => .error .noCredentials

/-- Where the server is. -/
inductive Target
  | url (url : String)
  | domain (domain : String)
deriving DecidableEq, Repr

/-- Where the server is. A URL goes before a domain. -/
def target (s : Settings) : Except Failure Target :=
  match s.sessionUrl, s.domain with
  | some url, _ => .ok (.url url)
  | none, some domain => .ok (.domain domain)
  | none, none => .error .noServer

/-- What to show the server and where it is, where a `sessionUrl` that is given goes before what is set. -/
def connection (s : Settings) (sessionUrl : Option String) :
    Except Failure (Credentials × Target) := do
  let s := { s with sessionUrl := sessionUrl <|> s.sessionUrl }
  let credentials ← s.credentials
  let target ← s.target
  return (credentials, target)

end Settings

end JmapClient
