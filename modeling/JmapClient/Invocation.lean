import JmapClient.Registry

/-!
# Invocations

A batch of calls and the answer to it are lists of invocations: a method's name, its arguments or its
answer, and the id of the call. In JSON an invocation is an array of the three.
-/

namespace JmapClient

open Json

/-- An element of a batch of calls or of an answer to one. -/
structure Invocation (α : Type) where
  name : String
  content : α
  callId : String

namespace Invocation

open Record in
instance {α : Type} [Readable α] : Readable (Invocation α) where
  read := Record.readTuple "a tuple of size 3" <|
    Invocation.mk <$> required "name" <*> required "content" <*> required "callId"

instance {α : Type} [Writable α] : Writable (Invocation α) where
  write i := do
    let content ← write i.content
    return .array [.string i.name, content, .string i.callId]

/-- Whether a server sends this in place of an answer, under `errorName`. -/
def isError {α : Type} (i : Invocation α) : Bool := i.name == errorName

variable {S : Schema}

/-- The error that a server sends in place of an answer. -/
def error? (i : Invocation (Payload S)) : Option MethodError :=
  if i.isError then i.content.as? .methodError else none

/-- Decodes the element `v` of an answer. -/
def ofValue (methods : MethodRegistry S) (v : Value) : Except Error (Invocation (Payload S)) := do
  let elements ← Error.ofProblem (v.read (α := List Value))
  match elements with
  | [name, content, callId] =>
    let name ← Error.ofProblem (name.read (α := String))
    let callId ← Error.ofProblem (callId.read (α := String))
    let payload ← methods.decode name callId content
    return ⟨name, payload, callId⟩
  | _ => .error (.malformedInvocation elements.length)

end Invocation

end JmapClient
