import JmapClient.Client
import JmapClient.Outcome

/-!
# Uploading and downloading

A file is uploaded only if it is no larger than the server takes, and a download goes to a file only if
there is none yet or it is to be overwritten (`Download.force`). Both go to an account that the session
lists (`Session.resolveAccount`). The media type of a file is guessed (`MediaTypes`) if none is given.
-/

namespace JmapClient

open Json

variable {S : Schema}

/-- What is known of the media types of files, by their paths. -/
abbrev MediaTypes : Type := String → Option String

/-- The media type of data of which nothing is known. -/
def MediaTypes.unknown : String := "application/octet-stream"

/-- What to upload. -/
structure Upload where
  path : String
  /-- Guessed from the path if not given. -/
  mediaType : Option String
  /-- The default account if not given. -/
  account : Option String
deriving DecidableEq, Repr

/-- What to download. -/
structure Download where
  blobId : String
  /-- The path of the file to write. -/
  output : String
  account : Option String
  /-- What the server is to call the type of the blob. -/
  mediaType : Option String
  /-- What the server is to call the blob. -/
  fileName : Option String
  /-- Whether to overwrite the file if there is one. -/
  force : Bool
deriving DecidableEq, Repr

/-- The account that is asked for, if the session lists it. If `none` is asked for, the default account. -/
def Session.resolveAccount (s : Session S) : Option String → Except Failure String
  | some id =>
    match s.account? ⟨id⟩ with
    | some _ => .ok id
    | none => .error (.unlistedAccount id)
  | none =>
    match s.defaultAccount? Core.uri with
    | some id => .ok id.text
    | none => .error .noAccounts

/-- The size of the largest upload that the server takes, if it has a limit. -/
def Session.uploadLimit? (s : Session S) : Option Nat :=
  match s.capabilities.core? with
  | some core => if core.maxSizeUpload = 0 then none else some core.maxSizeUpload.toNat
  | none => none

/-- Fails if the `size` of a file is more than the server takes. -/
def Session.checkSize (s : Session S) (path : String) (size : Nat) : Except Failure Unit :=
  match s.uploadLimit? with
  | some limit => if limit < size then .error (.tooLarge path size limit) else .ok ()
  | none => .ok ()

namespace Client

/-- Turns the answer about a file into the outcome of a job. -/
def fileAnswer {α : Type} : Except FileFault α → Except Failure α
  | .ok a => .ok a
  | .error fault => .error (.file fault)

/-- Uploads the file of `u`. The second part is the account that it went to. -/
def uploadFile (c : Client S) (types : MediaTypes) (u : Upload) : Job S Failure (Value × String) := do
  let s := (← ExceptT.adapt Failure.client c.currentSession).session
  let accountId ← ofExcept (s.resolveAccount u.account)
  let content ← ofExcept (fileAnswer (← Job.ask (.read u.path)))
  ofExcept (s.checkSize u.path content.length)
  let mediaType := u.mediaType.getD ((types u.path).getD MediaTypes.unknown)
  let blob ← ExceptT.adapt Failure.client (c.upload accountId mediaType content)
  match toValue blob with
  | .ok v => return (v, accountId)
  | .error problem => throw (.unwritable problem)

/-- Uploads a file and shows what the server tells of it. -/
def showUpload (c : Client S) (types : MediaTypes) (u : Upload) : Job S Failure (Value × Option Meta) := do
  let (v, accountId) ← c.uploadFile types u
  return (v, some ⟨none, some accountId⟩)

/-- What is told of a finished download of `size` octets. -/
def downloaded (d : Download) (size : Nat) : Value :=
  .ofTree (.object
    [("blobId", .string d.blobId), ("size", .number (.int size)), ("savedTo", .string d.output)])

/-- Downloads a blob to a file and shows what came of it. -/
def showDownload (c : Client S) (d : Download) : Job S Failure (Value × Option Meta) := do
  let isPresent ← Job.ask (.isPresent d.output)
  if isPresent && !d.force then
    throw (.refused (d.output ++ " already exists. Pass --force to overwrite it"))
  let s := (← ExceptT.adapt Failure.client c.currentSession).session
  let accountId ← ofExcept (s.resolveAccount d.account)
  let mediaType := d.mediaType.getD MediaTypes.unknown
  let name := d.fileName.getD d.blobId
  let content ← ExceptT.adapt Failure.client (c.download accountId d.blobId mediaType name)
  ofExcept (fileAnswer (← Job.ask (.write d.output content)))
  return (downloaded d content.length, some ⟨none, some accountId⟩)

end Client

end JmapClient
