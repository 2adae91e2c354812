import JmapClient.Registry
import JmapClient.UriTemplate

/-!
# Sessions

A session is what a server tells of itself: its capabilities, the accounts that the user has and the URLs
to send requests to. A document that describes one (`SessionDocument`) is accepted only if its registered
capabilities can be decoded and its primary accounts are sound (`Session.ofDocument`).
-/

namespace JmapClient

open Json

/-! ### Documents -/

/-- An account as a server describes it. -/
structure AccountDocument where
  name : String
  /-- Whether the account is the user's own and not one shared with him. -/
  isPersonal : Bool
  isReadOnly : Bool
  capabilities : SortedMap Uri Value

namespace AccountDocument

open Record in
instance : Readable AccountDocument where
  read := Record.read "Account" <|
    AccountDocument.mk <$> required "name" <*> defaulted "isPersonal" false <*>
      defaulted "isReadOnly" false <*> defaulted "accountCapabilities" ∅

instance : Writable AccountDocument where
  write a := writeRecord
    [member "name" a.name, member "isPersonal" a.isPersonal, member "isReadOnly" a.isReadOnly,
      member "accountCapabilities" a.capabilities]

end AccountDocument

/-- A session as a server describes it. -/
structure SessionDocument where
  capabilities : SortedMap Uri Value
  accounts : SortedMap Id AccountDocument
  /-- The user's main account for each capability. -/
  primaryAccounts : SortedMap Uri Id
  username : String
  apiUrl : String
  downloadUrl : String
  uploadUrl : String
  eventSourceUrl : String
  /-- Changes whenever anything else in the session does. -/
  state : String

namespace SessionDocument

open Record in
instance : Readable SessionDocument where
  read := Record.read "Session" <|
    SessionDocument.mk <$> required "capabilities" <*> required "accounts" <*>
      required "primaryAccounts" <*> defaulted "username" "" <*> required "apiUrl" <*>
      defaulted "downloadUrl" "" <*> defaulted "uploadUrl" "" <*> defaulted "eventSourceUrl" "" <*>
      defaulted "state" ""

instance : Writable SessionDocument where
  write s := writeRecord
    [member "capabilities" s.capabilities, member "accounts" s.accounts,
      member "primaryAccounts" s.primaryAccounts, member "username" s.username,
      member "apiUrl" s.apiUrl, member "downloadUrl" s.downloadUrl, member "uploadUrl" s.uploadUrl,
      member "eventSourceUrl" s.eventSourceUrl, member "state" s.state]

/-- What is wrong with `id` as the primary account for `uri`, if anything is: it is no account of the user, or does not
have the capability. -/
def flaw? (s : SessionDocument) (uri : Uri) (id : Id) : Option String :=
  match s.accounts.find? id with
  | none => some ("primary account '" ++ id.text ++ "' for " ++ uri.text ++ " is not listed")
  | some account =>
    if account.capabilities.contains uri then none
    else some ("primary account '" ++ id.text ++ "' doesn't advertise " ++ uri.text)

/-- Why the primary accounts of a document are not sound, if one has a `flaw?`. -/
def unsound? (s : SessionDocument) : Option String :=
  s.primaryAccounts.entries.findSome? fun (uri, id) => s.flaw? uri id

end SessionDocument

/-! ### Sessions -/

variable {S : Schema}

/-- An account in a session. -/
structure Account (S : Schema) where
  id : Id
  document : AccountDocument
  capabilities : Capabilities S

/-- A session: its document and what was decoded of it. -/
structure Session (S : Schema) where
  document : SessionDocument
  capabilities : Capabilities S
  accounts : SortedMap Id (Account S)

namespace Session

/-- Decodes the capabilities of accounts by `registry`. -/
def decodeAccounts (registry : CapabilityRegistry S) :
    List (Id × AccountDocument) → Except Error (List (Id × Account S))
  | [] => .ok []
  | (id, a) :: rest => do
    let capabilities ← registry.decode a.capabilities
    let accounts ← decodeAccounts registry rest
    return (id, ⟨id, a, capabilities⟩) :: accounts

/-- Decodes the document `s` by `registry` and checks it. -/
def ofDocument (registry : CapabilityRegistry S) (s : SessionDocument) :
    Except Error (Session S) := do
  let capabilities ← registry.decode s.capabilities
  let accounts ← decodeAccounts registry s.accounts.entries
  match s.unsound? with
  | some reason => .error (.invalidSession reason)
  | none => return ⟨s, capabilities, .ofList accounts⟩

/-- Decodes and checks the document that `body` is the text of. -/
def ofBytes (registry : CapabilityRegistry S) (body : List UInt8) : Except Error (Session S) := do
  let s ← Error.ofProblem (readText (α := SessionDocument) body)
  ofDocument registry s

instance : Writable (Session S) where
  write s := write s.document

/-- Whether the server has the capability `uri`, registered or not. -/
def supports (s : Session S) (uri : Uri) : Bool := s.document.capabilities.contains uri

/-- The account with the id `id`. -/
def account? (s : Session S) (id : Id) : Option (Account S) := s.accounts.find? id

/-- The user's main account for the capability `uri`. -/
def primaryAccount? (s : Session S) (uri : Uri) : Option Id := s.document.primaryAccounts.find? uri

/-- The account to use for `uri`: the main one for it, else the first that is the user's own, else the first of all. -/
def defaultAccount? (s : Session S) (uri : Uri) : Option Id :=
  match s.primaryAccount? uri with
  | some id => some id
  | none =>
    let accounts := s.accounts.values
    (accounts.find? (·.document.isPersonal) <|> accounts.head?).map (·.id)

/-- Fails if the identifier is not `Valid`. -/
def checkId (id : String) : Except Error Unit :=
  match Id.fault? ⟨id⟩ with
  | none => .ok ()
  | some fault => .error (.invalidId fault)

/-- Puts `values` into a template of the session. The program is given up if the template cannot be expanded. -/
def expand (template : String) (values : List (String × String)) : Attempt String :=
  ExceptT.lift (UriTemplate.expand? template (.ofList values))

/-- Where to upload to the account `accountId`. -/
def uploadUrlFor (s : Session S) (accountId : String) : Attempt String := do
  ofExcept (checkId accountId)
  expand s.document.uploadUrl [("accountId", accountId)]

/-- Where to download the blob `blobId`. The server is to call it `name` and its type `mediaType`. -/
def downloadUrlFor (s : Session S) (accountId blobId mediaType name : String) : Attempt String := do
  ofExcept (checkId accountId)
  ofExcept (checkId blobId)
  expand s.document.downloadUrl
    [("accountId", accountId), ("blobId", blobId), ("type", mediaType), ("name", name)]

end Session

/-- Whether the account has the capability `uri`, registered or not. -/
def Account.supports (a : Account S) (uri : Uri) : Bool := a.document.capabilities.contains uri

end JmapClient
