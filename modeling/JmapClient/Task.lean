import JmapClient.Discovery
import JmapClient.Files

/-!
# Tasks

A `Task σ α` works on a state of type `σ` that it shares with other tasks, asks the world for what it needs
(`Effect`) and ends with a value of type `α`. What it does between two questions it does at a stroke; while
it waits for an answer others may change the state. `Task.perform` carries a task out on its own, in any
monad in which the world answers.
-/

namespace JmapClient

/-- What a task asks of the world. -/
inductive Effect
  /-- Sends a request and waits for the answer. -/
  | http (r : Http.Request)
  /-- Asks whether there is a file or directory at `path`. -/
  | isPresent (path : String)
  | read (path : String)
  | write (path : String) (content : Bytes)
  /-- Sets the rights to a file, which `mode` tells as `chmod` takes it. -/
  | restrict (path : String) (mode : Nat)
  /-- Looks up the service records of `domain`. -/
  | lookUp (domain : String)
deriving DecidableEq, Repr

/-- What the world answers. -/
abbrev Effect.Answer : Effect → Type
  | .http _ => Http.Answer
  | .isPresent _ => Bool
  | .read _ => Except FileFault Bytes
  | .write _ _ => Except FileFault Unit
  | .restrict _ _ => Except FileFault Unit
  | .lookUp _ => Except String (List ServiceRecord)

/-- A computation with a shared state that asks the world. -/
inductive Task (σ α : Type) : Type
  | done (a : α)
  /-- Looks at the state. -/
  | look (k : σ → Task σ α)
  /-- Changes the state. -/
  | put (s : σ) (k : Task σ α)
  /-- Waits for an answer. -/
  | ask (e : Effect) (k : e.Answer → Task σ α)

namespace Task

variable {σ α β γ : Type}

/-- Goes on with what a task ends with. -/
def bind : Task σ α → (α → Task σ β) → Task σ β
  | .done a, f => f a
  | .look k, f => .look fun s => (k s).bind f
  | .put s k, f => .put s (k.bind f)
  | .ask e k, f => .ask e fun a => (k a).bind f

instance : Monad (Task σ) where
  pure := .done
  bind := .bind

theorem bind_done (t : Task σ α) : t.bind .done = t := by
  induction t with
  | done _ => rfl
  | look _ ih => exact congrArg Task.look (funext ih)
  | put s _ ih => exact congrArg (Task.put s) ih
  | ask e _ ih => exact congrArg (Task.ask e) (funext ih)

theorem bind_assoc (t : Task σ α) (f : α → Task σ β) (g : β → Task σ γ) :
    (t.bind f).bind g = t.bind fun a => (f a).bind g := by
  induction t with
  | done _ => rfl
  | look _ ih => exact congrArg Task.look (funext ih)
  | put s _ ih => exact congrArg (Task.put s) ih
  | ask e _ ih => exact congrArg (Task.ask e) (funext ih)

/-- Carries a task out from a state, by what `answer` tells of the world. The second part is the state in the end. -/
def perform {m : Type → Type} [Monad m] (answer : (e : Effect) → m e.Answer) :
    Task σ α → σ → m (α × σ)
  | .done a, s => pure (a, s)
  | .look k, s => (k s).perform answer s
  | .put s k, _ => k.perform answer s
  | .ask e k, s => do
    let a ← answer e
    (k a).perform answer s

end Task

end JmapClient
