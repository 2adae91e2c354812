import JmapClient.Command.Discover
import JmapClient.Command.Echo
import JmapClient.Command.Overview
import JmapClient.Command.Transfer
import JmapClient.Settings

/-!
# Errands

An errand is what a command has to do with the server that is set. `Errand.job` is what it does with a
client of that server, and `Errand.plan` finds the server in the settings first. Without credentials no
errand is begun.
-/

namespace JmapClient

open Json

variable {S : Schema}

/-- What there is to do with a server. -/
inductive Errand
  | showSession
  | echo (texts : List String)
  | upload (u : Upload)
  | download (d : Download)
deriving DecidableEq, Repr

/-- A job, and what its requests show of the user. -/
structure Plan (S : Schema) where
  credentials : Credentials
  job : Job S Failure (Value × Option Meta)

/-- A client of the server that is set. -/
def Settings.Target.client (registry : Registry S) : Settings.Target → Job S Failure (Client S)
  | .url text => return ⟨registry, some text⟩
  | .domain name => ExceptT.adapt Failure.client (Client.discover registry name)

namespace Errand

/-- What is done with the client `c` of the server. -/
def job (types : MediaTypes) (c : Client S) : Errand → Job S Failure (Value × Option Meta)
  | showSession => c.showSession
  | echo texts => c.showEcho texts
  | upload u => c.showUpload types u
  | download d => c.showDownload d

/-- What is done with the server that is set, where a `sessionUrl` that is given goes before what is set. -/
def plan (registry : Registry S) (types : MediaTypes) (settings : Settings) (sessionUrl : Option String)
    (e : Errand) : Except Failure (Plan S) := do
  let (credentials, target) ← settings.connection sessionUrl
  return {
    credentials
    job := do
      let c ← target.client registry
      e.job types c }

end Errand

end JmapClient
