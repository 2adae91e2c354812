import JmapClient.Error

/-!
# Discovery

A domain names its servers in service records. `ServiceRecord.endpoints` lists the URLs at which sessions may
be fetched, in the order in which they are to be tried.
-/

namespace JmapClient

/-- A service record of a domain. -/
structure ServiceRecord where
  priority : UInt16
  weight : UInt16
  port : UInt16
  /-- The name of the host. -/
  target : String
deriving DecidableEq, Repr

namespace ServiceRecord

/-- The name of a host without one `.` at its end. -/
def hostName (target : String) : String :=
  match target.toList.reverse with
  | '.' :: rest => String.ofList rest.reverse
  | _ => target

/-- Where the host gives sessions. The port is left out if it is the usual one or not given. -/
def sessionUrl (r : ServiceRecord) : String :=
  let port := if r.port = 0 ∨ r.port = 443 then "" else ":" ++ toString r.port.toNat
  "https://" ++ hostName r.target ++ port ++ "/.well-known/jmap"

/-- Whether `a` is to be tried no later than `b`: it has the lower priority, or the same and no less weight. -/
def noLater (a b : ServiceRecord) : Bool :=
  a.priority < b.priority || (a.priority == b.priority && b.weight ≤ a.weight)

/-- Puts records in the order in which they are to be tried. Equal ones stay in their order. -/
def sort (rs : List ServiceRecord) : List ServiceRecord := rs.mergeSort noLater

/-- Whether the record names a host. One with the root `.` as its target says that there is none. -/
def isOffered (r : ServiceRecord) : Bool := !r.target.isEmpty && r.target != "."

/-- The URLs at which the sessions of `domain` may be fetched, by its records `rs`. -/
def endpoints (domain : String) (rs : List ServiceRecord) : Except Error (List String) :=
  let offered := rs.filter isOffered
  if offered.isEmpty then .error (.discovery domain "no JMAP SRV record found")
  else .ok ((sort offered).map sessionUrl)

end ServiceRecord

end JmapClient
