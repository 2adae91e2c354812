import JmapClient.Client
import JmapClient.Outcome

/-!
# Having arguments echoed

Arguments are given as texts `key=value` (`Echo.ofTexts`). The call with all of them is sent, and what comes
back is shown.
-/

namespace JmapClient

open Json

variable {S : Schema}

namespace Echo

/-- The value of a text: what it is as JSON, or the text itself if it is not JSON. -/
def valueOf (text : String) : Value :=
  match Value.ofBytes (Utf8.encode text) with
  | .ok v => v
  | .error _ => .string text

/-- The name and the value of an argument, which the first `=` parts. -/
def pairOfText (text : String) : Except Failure (String × Value) :=
  match text.toList.span (· ≠ '=') with
  | (_, []) => .error (.notAPair text)
  | ([], _) => .error (.emptyKey text)
  | (key, _ :: value) => .ok (String.ofList key, valueOf (String.ofList value))

/-- The arguments that `texts` name and value. Of several with one name the last counts. -/
def ofTexts (texts : List String) : Except Failure Echo := do
  let pairs ← texts.mapM pairOfText
  return pairs.foldl (fun e p => e.insert p.1 p.2) .empty

end Echo

/-- Sends the arguments that `texts` name and value, and shows what comes back. -/
def Client.showEcho (c : Client S) (texts : List String) : Job S Failure (Value × Option Meta) := do
  let e ← ofExcept (Echo.ofTexts texts)
  ExceptT.adapt Failure.client do
    let (request, callId) ← ofExcept (Request.empty.invoke e.call)
    let response ← c.execute request
    let (echoed, rest) ← ofExcept (response.take .echo callId)
    return (.ofMap echoed.arguments, some ⟨some rest.sessionState, none⟩)

end JmapClient
