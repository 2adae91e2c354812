import JmapClient.Failure
import JmapClient.Json.Printer
import JmapClient.Json.Readable

/-!
# What commands print

A command ends with a result or a failure and prints a report of it: one line with a JSON object
(`Report.line`). `Outcome` is what is seen of a command from outside: the line and the exit code.
-/

namespace JmapClient

open Json

/-- What is told beside a result. -/
structure Meta where
  sessionState : Option String
  accountId : Option String
deriving DecidableEq, Repr

/-- What is told of a command. -/
inductive Report
  | result (v : Value) (more : Option Meta)
  | failure (f : Failure)

namespace Report

/-- The member `name`, if there is a value for it. -/
def optionalText (name : String) : Option String → List (String × Tree)
  | some s => [(name, .string s)]
  | none => []

/-- The object of what is told beside a result. -/
def metaTree (m : Meta) : Tree :=
  .object (optionalText "sessionState" m.sessionState ++ optionalText "accountId" m.accountId)

/-- The object that tells of a failure. -/
def failureTree (f : Failure) : Tree :=
  .object
    [("type", .string f.verdict.kind), ("message", .string f.message),
      ("retryable", .bool f.verdict.isRetryable)]

/-- The report as a JSON object. -/
def tree : Report → Tree
  | .result v none => .object [("ok", .bool true), ("result", v.tree)]
  | .result v (some m) =>
    .object [("ok", .bool true), ("result", v.tree), ("meta", metaTree m)]
  | .failure f => .object [("ok", .bool false), ("error", failureTree f)]

/-- The report as a line of text. -/
def line (r : Report) : String := r.tree.print ++ "\n"

end Report

/-- What is seen of a command. -/
inductive Outcome
  | ended (code : ExitCode) (line : String)
  /-- The program was given up. -/
  | crashed
deriving DecidableEq, Repr

namespace Outcome

/-- What is seen of a command that failed with `f`. -/
def ofFailure (f : Failure) : Outcome :=
  if f.isFatal then .crashed else .ended f.verdict.code (Report.failure f).line

/-- What is seen of a command, by what it ended with. -/
def of : Except Failure (Value × Option Meta) → Outcome
  | .ok (v, more) => .ended .success (Report.result v more).line
  | .error f => ofFailure f

end Outcome

end JmapClient
