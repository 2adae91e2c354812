import JmapClient.Request
import JmapClient.Response
import JmapClient.Session
import JmapClient.Task

/-!
# Clients

A client fetches a session when it first needs one and holds it until it is told to fetch another
(`Client.authenticate`). Batches of calls (`Client.execute`) and blobs (`Client.upload`,
`Client.download`) go to the URLs of the session that the client held when it began; nothing is sent that
the server of that session does not support.
-/

namespace JmapClient

open Json

variable {S : Schema}

/-- A session that a client holds. The number tells it from those that the client held before. -/
structure Held (S : Schema) where
  number : Nat
  session : Session S

/-- A client of a server whose payloads are those of `S`. -/
structure Client (S : Schema) where
  registry : Registry S
  /-- Where sessions are fetched. -/
  endpoint : Option String

/-- A task on what a client holds, which may fail with an `ε`. -/
abbrev Job (S : Schema) (ε α : Type) : Type := ExceptT ε (Task (Option (Held S))) α

namespace Job

/-- The session that the client holds, or `none`. -/
def held {ε : Type} : Job S ε (Option (Held S)) := ExceptT.lift (.look .done)

/-- Asks the world for `e`. -/
def ask {ε : Type} (e : Effect) : Job S ε e.Answer := ExceptT.lift (.ask e .done)

/-- Holds `session` from now on. -/
def hold {ε : Type} (session : Session S) : Job S ε (Held S) :=
  ExceptT.lift (.look fun before =>
    let held : Held S := ⟨before.elim 0 (·.number + 1), session⟩
    .put (some held) (.done held))

/-- Sends the request `r`. -/
def send (r : Http.Request) : Job S Error Http.Response := do
  match ← ask (.http r) with
  | .ok response => return response
  | .error failure => throw (.http failure)

end Job

open Job

/-- What a refusal tells: the problem that the server describes (`RequestError`), or else its status and body. -/
def Http.Response.refusal (r : Http.Response) : Error :=
  let bare : Error := .status r.status r.bodyText
  if r.isJson then
    match (readText r.body : Except Problem RequestError) with
    | .ok e => .request (if e.status = 0 then { e with status := r.status } else e)
    | .error _ => bare
  else bare

namespace Client

/-- Fetches a session and holds it. -/
def authenticate (c : Client S) : Job S Error (Held S) := do
  match c.endpoint with
  | none => throw .noSessionEndpoint
  | some endpoint =>
    let response ← send (.get endpoint)
    if response.isOk then
      let session ← ofExcept (Session.ofBytes c.registry.capabilities response.body)
      hold session
    else throw (.authentication response.status)

/-- The session that the client holds, which is fetched if there is none. -/
def currentSession (c : Client S) : Job S Error (Held S) := do
  match ← held with
  | some h => return h
  | none => c.authenticate

/-- Sends the batch `r`. -/
def execute (c : Client S) (r : Request) : Job S Error (Response S) := do
  let session := (← c.currentSession).session
  match r.uses.find? (!session.supports ·) with
  | some uri => throw (.unsupportedCapability uri)
  | none =>
    let text ← ofExcept (Error.ofProblem (toText r))
    let response ← send (.post session.document.apiUrl Http.jsonType (Utf8.encode text))
    if response.isOk then ofExcept (Response.ofBytes c.registry.methods response.body)
    else throw response.refusal

/-- Uploads `content` to the account `accountId`. -/
def upload (c : Client S) (accountId mediaType : String) (content : Bytes) :
    Job S Error UploadResponse := do
  let session := (← c.currentSession).session
  let url ← ofExcept (Error.ofAttempt (session.uploadUrlFor accountId))
  let response ← send (.post url mediaType content)
  if response.isSuccess then ofExcept (Error.ofProblem (readText response.body))
  else throw response.refusal

/-- Downloads the blob `blobId`. The server is to call it `name` and its type `mediaType`. -/
def download (c : Client S) (accountId blobId mediaType name : String) : Job S Error Bytes := do
  let session := (← c.currentSession).session
  let url ← ofExcept (Error.ofAttempt (session.downloadUrlFor accountId blobId mediaType name))
  let response ← send (.get url)
  if response.isSuccess then return response.body else throw response.refusal

end Client

end JmapClient
