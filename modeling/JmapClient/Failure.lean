import JmapClient.Error
import JmapClient.Files

/-!
# Failures of commands

`Failure` lists why a command does not come to its end. A failure has a wording (`Failure.message`) and a
verdict (`Failure.verdict`): the kind that it is reported as, and the exit code, which tells scripts
whether to try again.
-/

namespace JmapClient

open Json

/-- How a command ends. -/
inductive ExitCode
  | success
  /-- The command failed, and may succeed if it is tried again. -/
  | transient
  | permanent
  /-- The command refused to do harm. -/
  | refused
deriving DecidableEq, Repr

namespace ExitCode

/-- The number that the command leaves. -/
def number : ExitCode → Nat
  | success => 0
  | transient => 1
  | permanent => 2
  | refused => 3

/-- The name that the code goes by. -/
def name : ExitCode → String
  | success => "success"
  | transient => "transient_error"
  | permanent => "permanent_error"
  | refused => "safety_rejected"

/-- All codes, in the order of their numbers. -/
def all : List ExitCode := [success, transient, permanent, refused]

end ExitCode

/-- What a failure is reported as. -/
structure Verdict where
  kind : String
  code : ExitCode
deriving DecidableEq, Repr

namespace Verdict

/-- The verdict on a failure that passes if `passing` holds. -/
def of (kind : String) (passing : Bool) : Verdict :=
  ⟨kind, if passing then .transient else .permanent⟩

/-- Whether it may help to try again. -/
def isRetryable (v : Verdict) : Bool := v.code = .transient

end Verdict

/-- Whether `status` tells of trouble that passes: too many requests, or trouble of the server's own. -/
def isPassingStatus (status : UInt16) : Bool := status == 429 || 500 ≤ status

/-- The verdict on an error of the client. -/
def Error.verdict : Error → Verdict
  | .http _ => .of "transport" true
  | .status code _ => .of "http_status" (isPassingStatus code)
  | .request e =>
    if e.type = ErrorType.limit then .of "limit" false
    else .of "request_error" (isPassingStatus e.status)
  | .method e => .of "method_error" (e.type == ErrorType.serverUnavailable)
  | .noSessionEndpoint | .authentication _ => .of "authentication" false
  | .unsupportedCapability _ => .of "unsupported_capability" false
  | .discovery _ _ => .of "discovery" false
  | .invalidId _ | .duplicateCallId _ | .unknownCallId _ | .conflictingArgument _ =>
    .of "validation_failed" false
  | _ => .of "protocol_error" false

/-- Why a command fails. -/
inductive Failure
  | client (e : Error)
  /-- The command would do harm, and was not told to do it all the same. -/
  | refused (reason : String)
  /-- A text that is to name and value an argument has no `=`. -/
  | notAPair (text : String)
  /-- There is nothing before the `=`. -/
  | emptyKey (text : String)
  | unlistedAccount (id : String)
  | noAccounts
  /-- The `size` of a file is more than the server takes. -/
  | tooLarge (path : String) (size limit : Nat)
  | file (fault : FileFault)
  | noCredentials
  | noServer
  /-- The text of the settings cannot be read. -/
  | brokenSettings
  /-- A datum cannot be written as JSON. -/
  | unwritable (problem : Problem)
  /-- The summary of a session cannot be written. No one can answer to that: the program is given up. -/
  | brokenSummary (problem : Problem)
  | stated (message : String)
  /-- The failure `cause` while something was being done. -/
  | during (context : String) (cause : Failure)

namespace Failure

/-- The failure in words: what happened, and the cause behind it. -/
def message : Failure → String
  | .client e => match e.source? with
    | some source => e.message ++ ": " ++ source
    | none => e.message
  | .refused reason => reason
  | .notAPair text => "Expected key=value, got '" ++ text ++ "'"
  | .emptyKey text => "Empty key in '" ++ text ++ "'"
  | .unlistedAccount id => "Account '" ++ id ++ "' is not in the session"
  | .noAccounts => "The session lists no accounts"
  | .tooLarge path size limit =>
    path ++ " is " ++ toString size ++ " bytes; the server accepts at most " ++ toString limit
  | .file fault => fault.message
  | .noCredentials => "No credentials configured. Run `jmap setup` or set JMAP_TOKEN"
  | .noServer =>
    "No server configured. Set JMAP_SESSION_URL, JMAP_DOMAIN or pass --session-url"
  | .brokenSettings => "<toml>"
  | .unwritable problem => problem.message
  | .brokenSummary problem => problem.message
  | .stated message => message
  | .during context cause => context ++ ": " ++ cause.message

/-- What the failure is reported as. -/
def verdict : Failure → Verdict
  | .client e => e.verdict
  | .refused _ => ⟨"safety_rejected", .refused⟩
  | .during _ cause => cause.verdict
  | _ => .of "error" false

/-- Whether the program is given up without a report. -/
def isFatal : Failure → Bool
  | .client e => e.isFatal
  | .brokenSummary _ => true
  | _ => false

end Failure

end JmapClient
