import JmapClient.Http
import JmapClient.Id
import JmapClient.ServerError

/-!
# Errors

Why something that a client was asked for did not come about: `Error` lists the causes and
`Error.message` words them. An `Attempt` may also come to nothing at all, not even an error.
-/

namespace JmapClient

open Json

/-- Why a client cannot do what it was asked for. -/
inductive Error
  /-- The client does not know where to fetch a session. -/
  | noSessionEndpoint
  /-- The server refused to give a session, with the status `code`. -/
  | authentication (code : UInt16)
  | http (failure : Http.Failure)
  /-- The server refused a request and told why. -/
  | request (e : RequestError)
  /-- The server refused a request. -/
  | status (code : UInt16) (body : String)
  | unsupportedCapability (uri : Uri)
  | unknownMethod (name : String)
  /-- An invocation has not three elements but `length`. -/
  | malformedInvocation (length : Nat)
  | undecodableArguments (name callId : String) (problem : Problem)
  | undecodableCapability (uri : Uri) (problem : Problem)
  | json (problem : Problem)
  | invalidId (fault : IdFault)
  | duplicateCallId (callId : String)
  | unknownCallId (callId : String)
  /-- The argument `name` is given both as a value and as a reference. -/
  | conflictingArgument (name : String)
  | missingResponse (callId : String)
  | unexpectedResponse (callId actual : String)
  /-- The server failed at a method call. -/
  | method (e : MethodError)
  | invalidSession (reason : String)
  | discovery (domain reason : String)
  /-- A URL template cannot be expanded. No caller sees this: the program is given up (`Error.isFatal`). -/
  | brokenTemplate

/-- What may fail with an `Error`, or be `none`: then the program is given up at it. -/
abbrev Attempt (α : Type) : Type := ExceptT Error Option α

namespace Error

/-- The cause in words. -/
def message : Error → String
  | .noSessionEndpoint => "no session endpoint is set"
  | .authentication code =>
    "couldn't authenticate: session endpoint returned HTTP " ++ toString code.toNat
  | .http failure => failure.text
  | .request e => e.message
  | .status code body => "HTTP " ++ toString code.toNat ++ ": " ++ body
  | .unsupportedCapability uri =>
    "server doesn't support required capability '" ++ uri.text ++ "'"
  | .unknownMethod name => "method '" ++ name ++ "' not registered"
  | .malformedInvocation length =>
    "invocation must have exactly 3 elements, found " ++ toString length
  | .undecodableArguments name callId problem =>
    "couldn't decode " ++ name ++ " response (" ++ callId ++ ") at '" ++ pathText problem.path ++
      "': " ++ problem.message
  | .undecodableCapability uri problem =>
    "couldn't decode capability '" ++ uri.text ++ "': " ++ problem.message
  | .json problem => problem.message
  | .invalidId fault => fault.message
  | .duplicateCallId callId => "call id '" ++ callId ++ "' is already used in this request"
  | .unknownCallId callId =>
    "no call with id '" ++ callId ++ "' precedes this one in the request"
  | .conflictingArgument name =>
    "argument '" ++ name ++ "' is set both directly and as a result reference"
  | .missingResponse callId => "no response for call id '" ++ callId ++ "'"
  | .unexpectedResponse callId actual =>
    "response to '" ++ callId ++ "' is " ++ actual ++ ", not the requested type"
  | .method e => e.message
  | .invalidSession reason => "invalid session: " ++ reason
  | .discovery domain reason => "JMAP discovery for " ++ domain ++ " failed: " ++ reason
  | .brokenTemplate => "a URL template cannot be expanded"

/-- The cause of the cause, in words, where there is one of its own. -/
def source? : Error → Option String
  | .undecodableArguments _ _ problem =>
    some (match problem.path with
      | [] => problem.message
      | path => pathText path ++ ": " ++ problem.message)
  | .undecodableCapability _ problem => some problem.message
  | _ => none

/-- Whether the program is given up at an error, and no one gets to see it. -/
def isFatal : Error → Bool
  | .brokenTemplate => true
  | _ => false

/-- An attempt as a part of a task, in which only a fatal error tells that the program is given up. -/
def ofAttempt {α : Type} (x : Attempt α) : Except Error α := Option.getD x (.error .brokenTemplate)

/-- Turns a problem with JSON into an `Error`. -/
def ofProblem {α : Type} : Except Problem α → Except Error α
  | .ok a => .ok a
  | .error p => .error (.json p)

end Error

end JmapClient
