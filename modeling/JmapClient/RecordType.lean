import JmapClient.Filter
import JmapClient.MethodCall

/-!
# Types of records

A `RecordType` is a type of records that servers keep, such as messages or contacts, and that the standard
methods fetch, change and search. The calls of these methods are the same for every type; the type is
named when a call is made (`RecordType.call`).
-/

namespace JmapClient

open Json

/-- A type of records. `C` is the type of the conditions by which they are searched. -/
class RecordType (τ : Type) (C : outParam Type) extends Readable τ, Writable τ where
  /-- What the names of its methods begin with. -/
  typeName : String
  /-- The capabilities that a server with such records has. -/
  capabilities : List Uri

namespace RecordType

variable (τ : Type) {C : Type} [RecordType τ C]

/-- The name of `method` on records of the type. -/
def methodName (method : String) : String := typeName τ ++ "/" ++ method

/-- The call of `method` on records of the type, with the members in `parts` as its arguments. -/
def call (method : String) (parts : List (Except Problem (List (String × Tree)))) : MethodCall :=
  ⟨methodName τ method, capabilities τ, MethodCall.argumentsOf parts⟩

end RecordType

end JmapClient
