import JmapClient.Invocation

/-!
# Answers to batches

A `Response` is the answer to a batch of calls. It is decoded as a whole or not at all
(`Response.ofBytes`), and the answer to a call is found by the call's id (`Response.get`, `Response.take`).
-/

namespace JmapClient

open Json

/-- The outer form of an answer, with its elements not yet decoded. -/
structure Envelope where
  elements : List Value
  createdIds : Option (SortedMap Id Id)
  sessionState : String

namespace Envelope

open Record in
instance : Readable Envelope where
  read := Record.read "RawResponse" <|
    Envelope.mk <$> required "methodResponses" <*> optional "createdIds" <*>
      defaulted "sessionState" ""

end Envelope

/-- The answer to a batch of calls. -/
structure Response (S : Schema) where
  /-- The answers to the calls, in the order in which the server came to them. -/
  answers : List (Invocation (Payload S))
  createdIds : Option (SortedMap Id Id)
  /-- The state of the session, which is another when the session is out of date. -/
  sessionState : String

namespace Response

variable {S : Schema}

instance : Writable (Response S) where
  write r := writeRecord
    [member "methodResponses" r.answers, optionalMember "createdIds" r.createdIds,
      member "sessionState" r.sessionState]

/-- Decodes the elements of an answer by `methods`. -/
def ofEnvelope (methods : MethodRegistry S) (e : Envelope) : Except Error (Response S) := do
  let answers ← e.elements.mapM (Invocation.ofValue methods)
  return ⟨answers, e.createdIds, e.sessionState⟩

/-- Decodes the `body` of an answer by `methods`. -/
def ofBytes (methods : MethodRegistry S) (body : List UInt8) : Except Error (Response S) := do
  let e ← Error.ofProblem (readText (α := Envelope) body)
  ofEnvelope methods e

/-- The first answer to the call `callId`. -/
def find? (r : Response S) (callId : String) : Option (Invocation (Payload S)) :=
  r.answers.find? (·.callId == callId)

/-- The first datum of type `t` or error of the server in a list of answers, whichever comes first. -/
def firstOf (t : PayloadType S) : List (Invocation (Payload S)) → Option (Except Error t.Data)
  | [] => none
  | i :: is =>
    match i.content.as? t with
    | some d => some (.ok d)
    | none =>
      match i.error? with
      | some e => some (.error (.method e))
      | none => firstOf t is

/-- The answer of type `t` to a call. A call may have several answers, and all of them are looked at up
to the first error. -/
def get (r : Response S) (t : PayloadType S) (callId : String) : Except Error t.Data :=
  match r.answers.filter (·.callId == callId) with
  | [] => .error (.missingResponse callId)
  | i :: is => (firstOf t (i :: is)).getD (.error (.unexpectedResponse callId i.name))

/-- The answer of type `t` to a call, and what is left without it. -/
def take (r : Response S) (t : PayloadType S) (callId : String) :
    Except Error (t.Data × Response S) := do
  let d ← r.get t callId
  let rest := r.answers.eraseP fun i => i.callId == callId && i.content.hasType t
  return (d, { r with answers := rest })

/-- The ids of the calls at which the server failed, each with the error. -/
def methodErrors (r : Response S) : List (String × MethodError) :=
  r.answers.filterMap fun i => i.error?.map fun e => (i.callId, e)

end Response

end JmapClient
