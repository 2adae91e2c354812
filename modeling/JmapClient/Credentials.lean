import JmapClient.Base64
import JmapClient.Utf8

/-!
# Credentials

How a client tells the server who it is, in the header of every request.
-/

namespace JmapClient

/-- What a client shows of itself. -/
inductive Credentials
  | token (token : String)
  | password (username password : String)
deriving DecidableEq, Repr

namespace Credentials

/-- The value of the header that shows the credentials. -/
def header : Credentials → String
  | token t => "Bearer " ++ t
  | password u p => "Basic " ++ String.ofList (Base64.encode (Utf8.encode (u ++ ":" ++ p)))

/-- Whether the credentials can be shown in a header, which has no control characters but tabs. -/
def areShowable (c : Credentials) : Bool :=
  c.header.toList.all fun c => c = '\t' ∨ (0x20 ≤ c.toNat ∧ c.toNat ≠ 0x7F)

end Credentials

end JmapClient
