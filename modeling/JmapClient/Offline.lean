import JmapClient.Credentials
import JmapClient.Http
import JmapClient.Url

/-!
# Being without a network

What comes of requests where no host can be reached: one that cannot be made fails at once, and any other
fails when it is sent.
-/

namespace JmapClient.Offline

/-- What is shown of a request that cannot be made. -/
def notMade : String := "builder error"

/-- A failure that names the URL. -/
def failure (text : String) (u : Url) : Http.Answer := .error ⟨none, text ++ " for url (" ++ u.text ++ ")"⟩

/-- What comes of a request with credentials. Those in the URL are taken out of it once it has a host. -/
def answer (c : Credentials) (r : Http.Request) : Http.Answer :=
  match Url.ofText? r.url with
  | none => .error ⟨none, notMade⟩
  | some u =>
    if u.host?.isNone then failure notMade u
    else if !c.areShowable then .error ⟨none, notMade⟩
    else
      let u := u.withoutCredentials
      failure (if u.isSendable then "error sending request" else notMade) u

end JmapClient.Offline
