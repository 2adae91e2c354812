import JmapClient.Client
import JmapClient.Outcome

/-!
# Showing a session

The overview of a session (`Session.overview`) lists what the server has to offer, with capabilities and
accounts in the order of their names.
-/

namespace JmapClient

open Json

variable {S : Schema}

/-- The overview of an account. -/
def Account.overview (a : Account S) : Except Problem Value :=
  MethodCall.argumentsOf
    [member "id" a.id, member "name" a.document.name, member "isPersonal" a.document.isPersonal,
      member "isReadOnly" a.document.isReadOnly,
      member "capabilities" a.document.capabilities.keys]

/-- The overview of a session. It cannot be written if the id of an account is not `Valid`. -/
def Session.overview (s : Session S) : Except Problem Value := do
  let accounts ← s.accounts.values.mapM Account.overview
  MethodCall.argumentsOf
    [member "username" s.document.username, member "apiUrl" s.document.apiUrl,
      member "state" s.document.state, member "capabilities" s.document.capabilities.keys,
      member "core" s.capabilities.core?, member "accounts" accounts,
      member "primaryAccounts" s.document.primaryAccounts]

/-- Shows the session of a client. -/
def Client.showSession (c : Client S) : Job S Failure (Value × Option Meta) := do
  let held ← ExceptT.adapt Failure.client c.currentSession
  match held.session.overview with
  | .ok v => return (v, none)
  | .error problem => throw (.brokenSummary problem)

end JmapClient
