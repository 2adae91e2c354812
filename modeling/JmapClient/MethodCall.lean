import JmapClient.Id
import JmapClient.Json.Record

/-!
# Method calls

A `MethodCall` is what a client asks of a server: the name of a method, the capabilities that the call
needs and its arguments, which are refused if they hold an identifier that is not valid.
-/

namespace JmapClient

open Json

/-- A call of a method. -/
structure MethodCall where
  name : String
  /-- The capabilities that the server must have. -/
  requires : List Uri
  arguments : Except Problem Value

/-- The value of the arguments with the members in `parts`. -/
def MethodCall.argumentsOf (parts : List (Except Problem (List (String × Tree)))) :
    Except Problem Value :=
  (writeRecord parts).map .ofTree

end JmapClient
