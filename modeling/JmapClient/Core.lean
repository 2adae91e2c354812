import JmapClient.MethodCall

/-!
# The core capability

Every server has the core capability. It tells the server's limits (`CoreCapability`) and comes with a
method that answers with its own arguments (`Echo`).
-/

namespace JmapClient

open Json

/-- The name of the core capability. -/
def Core.uri : Uri := ⟨"urn:ietf:params:jmap:core"⟩

/-- The limits of a server. -/
structure CoreCapability where
  /-- The largest upload, in octets. -/
  maxSizeUpload : UInt64
  maxConcurrentUpload : UInt64
  /-- The largest request, in octets. -/
  maxSizeRequest : UInt64
  maxConcurrentRequests : UInt64
  maxCallsInRequest : UInt64
  maxObjectsInGet : UInt64
  /-- The most records that one call creates, changes and destroys together. -/
  maxObjectsInSet : UInt64
  /-- The rules by which the server compares texts. -/
  collationAlgorithms : List String
deriving DecidableEq, Repr

namespace CoreCapability

open Record in
instance : Readable CoreCapability where
  read := Record.read "CoreCapability" <|
    CoreCapability.mk <$> defaulted "maxSizeUpload" 0 <*> defaulted "maxConcurrentUpload" 0 <*>
      defaulted "maxSizeRequest" 0 <*> defaulted "maxConcurrentRequests" 0 <*>
      defaulted "maxCallsInRequest" 0 <*> defaulted "maxObjectsInGet" 0 <*>
      defaulted "maxObjectsInSet" 0 <*> defaulted "collationAlgorithms" []

instance : Writable CoreCapability where
  write c := writeRecord
    [member "maxSizeUpload" c.maxSizeUpload, member "maxConcurrentUpload" c.maxConcurrentUpload,
      member "maxSizeRequest" c.maxSizeRequest,
      member "maxConcurrentRequests" c.maxConcurrentRequests,
      member "maxCallsInRequest" c.maxCallsInRequest, member "maxObjectsInGet" c.maxObjectsInGet,
      member "maxObjectsInSet" c.maxObjectsInSet,
      member "collationAlgorithms" c.collationAlgorithms]

end CoreCapability

/-- The arguments of a call that the server answers with the same arguments, and the answer to it. -/
structure Echo where
  arguments : SortedMap String Value
deriving Inhabited

namespace Echo

instance : Readable Echo where
  read d := do
    let ((), arguments) ← OpenRecord.read "Echo" (pure ()) d
    return ⟨arguments⟩

instance : Writable Echo where
  write e := .ok (.object (Value.memberTrees e.arguments))

/-- No arguments. -/
def empty : Echo := ⟨∅⟩

/-- Gives the argument `name` the value `v`. -/
def insert (e : Echo) (name : String) (v : Value) : Echo := ⟨e.arguments.insert name v⟩

/-- The name of the method. -/
def methodName : String := "Core/echo"

/-- The call with these arguments. -/
def call (e : Echo) : MethodCall := ⟨methodName, [Core.uri], .ok (.ofMap e.arguments)⟩

end Echo

end JmapClient
