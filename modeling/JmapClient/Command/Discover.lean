import JmapClient.Client
import JmapClient.Outcome

/-!
# Finding the servers of a domain

The URLs at which the sessions of a domain may be fetched come from its service records. They can be shown
(`Job.showEndpoints`), or tried in their order (`Client.discover`).
-/

namespace JmapClient

open Json

variable {S : Schema}

/-- The overview of the `urls` that were found for a domain. -/
def Discovery.overview (domain : String) (urls : List String) : Value :=
  .ofTree (.object
    [("domain", .string domain), ("sessionUrls", .array (urls.map .string))])

/-- The URLs at which the sessions of `domain` may be fetched. -/
def Job.endpoints (domain : String) : Job S Error (List String) := do
  match ← Job.ask (.lookUp domain) with
  | .ok records => ofExcept (ServiceRecord.endpoints domain records)
  | .error reason => throw (.discovery domain reason)

/-- The client of the first of some URLs that gives a session. `last` is why the URL before them gives
none. -/
def Client.firstOf (registry : Registry S) (last : Error) : List String → Job S Error (Client S)
  | [] => throw last
  | url :: urls => do
    let client : Client S := ⟨registry, some url⟩
    match ← ExceptT.lift (ExceptT.run client.authenticate) with
    | .ok _ => return client
    | .error e => firstOf registry e urls

/-- A client of a server of `domain`, which then holds a session of it. -/
def Client.discover (registry : Registry S) (domain : String) : Job S Error (Client S) := do
  let urls ← Job.endpoints domain
  firstOf registry (.discovery domain "no usable session endpoint") urls

/-- Shows the URLs at which the sessions of a domain may be fetched. -/
def Job.showEndpoints (domain : String) : Job S Failure (Value × Option Meta) := do
  let urls ← ExceptT.adapt Failure.client (Job.endpoints domain)
  return (Discovery.overview domain urls, none)

end JmapClient
