import JmapClient.Proofs.Lifecycle
import JmapClient.Proofs.Strokes
import JmapClient.Proofs.Support
import Mathlib.Logic.Relation

/-!
# Strands

Any number of tasks may share a client. A `Strand` is a task that carries an operation out, and tells of the operation
whether it opens a session or acts in the one that it opened; strands do their strokes one after the other, in any order
(`Client.Step`). What a stroke comes to is said here for each place that a strand may be at.
-/

namespace JmapClient

open Json

variable {S : Schema}

/-! ### Strands -/

/-- How far a task has come: it opens a session, or acts in the session that it opened. -/
inductive Stage (S : Schema)
  | opening (p : Task.Pause (Option (Held S)) (Except Error (Held S)))
  | acting (h : Held S) (p : Task.Pause (Option (Held S)) (Except Error (Client.Reply S)))

/-- The session that a task opened. -/
def Stage.opened? : Stage S → Option (Held S)
  | .opening (.ended (.ok h)) => some h
  | .opening _ => none
  | .acting h _ => some h

/-- The task has failed. -/
def Stage.Failed : Stage S → Prop
  | .opening (.ended (.error _)) => True
  | .acting _ (.ended (.error _)) => True
  | _ => False

/-- A task that carries out an operation. -/
structure Strand (S : Schema) where
  operation : Client.Operation
  stage : Stage S

/-- A client that is shared. -/
structure Shared (S : Schema) where
  held : Option (Held S)
  strands : List (Strand S)
  /-- The answers to fetches in the order in which they came, each with the task that received it. -/
  fetched : List (Nat × Exchange)

namespace Shared

/-- A client without tasks, with the session that is `held`. -/
def start (held : Option (Held S)) : Shared S := ⟨held, [], []⟩

/-- The answers to fetches that the `i`-th task received. -/
def fetchedBy (x : Shared S) (i : Nat) : List Exchange := (x.fetched.filter (·.1 == i)).map (·.2)

/-- The `i`-th task has failed. -/
def Failed (x : Shared S) (i : Nat) : Prop := ∃ t, x.strands[i]? = some t ∧ t.stage.Failed

theorem fetchedBy_concat (held : Option (Held S)) (strands : List (Strand S))
    (fetched : List (Nat × Exchange)) (i j : Nat) (e : Exchange) :
    (⟨held, strands, fetched ++ [(i, e)]⟩ : Shared S).fetchedBy j =
      (⟨held, strands, fetched⟩ : Shared S).fetchedBy j ++ if i = j then [e] else [] := by
  by_cases h : i = j <;> simp [fetchedBy, List.filter_append, h]

end Shared

namespace Client

/-- One of the tasks does a stroke: a new one begins to open a session, one receives the answer to its fetch,
one goes on from the session that it opened, or one receives the answer to its request. -/
inductive Step (c : Client S) (x : Shared S) : Shared S → Prop
  | begin {op p held} (hstroke : Task.stroke (c.opening op) x.held = (p, held)) :
      Step c x ⟨held, x.strands ++ [⟨op, .opening p⟩], x.fetched⟩
  | fetch {i op e k p held} (hi : x.strands[i]? = some ⟨op, .opening (.waiting e k)⟩) (answer : e.Answer)
      (hstroke : (k answer).stroke x.held = (p, held)) :
      Step c x ⟨held, x.strands.set i ⟨op, .opening p⟩, x.fetched ++ [(i, ⟨e, answer⟩)]⟩
  | act {i op h p held} (hi : x.strands[i]? = some ⟨op, .opening (.ended (.ok h))⟩)
      (hstroke : Task.stroke (c.action op h) x.held = (p, held)) :
      Step c x ⟨held, x.strands.set i ⟨op, .acting h p⟩, x.fetched⟩
  | receive {i op h e k p held} (hi : x.strands[i]? = some ⟨op, .acting h (.waiting e k)⟩)
      (answer : e.Answer) (hstroke : (k answer).stroke x.held = (p, held)) :
      Step c x ⟨held, x.strands.set i ⟨op, .acting h p⟩, x.fetched⟩

/-- What is reached in any number of strokes (`Step`). -/
abbrev Reaches (c : Client S) : Shared S → Shared S → Prop := Relation.ReflTransGen (Step c)

/-- The session that was accepted last, or else the `initial` one. -/
def lastSession (c : Client S) (initial : Option (Session S)) (fetched : List (Nat × Exchange)) :
    Option (Session S) :=
  (fetched.filterMap fun m => c.accepted? m.2).getLast?.or initial

/-! ### Single strokes -/

section Strokes

variable {c : Client S} {op : Operation} {held : Option (Held S)}

theorem stroke_ofExcept {ε α : Type} (x : Except ε α) :
    Task.stroke (ofExcept x : Job S ε α) held = (.ended x, held) := by
  cases x <;> rfl

theorem stroke_ask_bind {ε α : Type} (e : Effect) (f : e.Answer → Job S ε α) :
    Task.stroke (Job.ask e >>= f : Job S ε α) held = (.waiting e f, held) := rfl

theorem stroke_receive (answer : Http.Answer) :
    Task.stroke (c.receive answer) held =
      match c.accept answer with
      | .error e => (.ended (.error e), held)
      | .ok session =>
        let next : Held S := ⟨held.elim 0 (·.number + 1), session⟩
        (.ended (.ok next), some next) := by
  unfold receive
  cases c.accept answer <;> rfl

/-- At first a task takes the session that is `held`, or else asks for one if it knows where. -/
theorem stroke_opening (c : Client S) (op : Operation) (held : Option (Held S)) :
    (∃ h, op ≠ .authenticate ∧ held = some h ∧
      Task.stroke (c.opening op) held = (.ended (.ok h), held)) ∨
    (op = .authenticate ∨ held = none) ∧
      (c.endpoint = none ∧ Task.stroke (c.opening op) held = (.ended (.error .noSessionEndpoint), held) ∨
        ∃ url, c.endpoint = some url ∧
          Task.stroke (c.opening op) held = (.waiting (.http (.get url)) c.receive, held)) := by
  have hauthenticate : c.endpoint = none ∧
        Task.stroke c.authenticate held = (.ended (.error .noSessionEndpoint), held) ∨
      ∃ url, c.endpoint = some url ∧
        Task.stroke c.authenticate held = (.waiting (.http (.get url)) c.receive, held) := by
    cases hendpoint : c.endpoint with
    | none =>
      refine Or.inl ⟨rfl, ?_⟩
      rw [authenticate, hendpoint]
      rfl
    | some url =>
      refine Or.inr ⟨url, rfl, ?_⟩
      rw [authenticate_eq hendpoint, stroke_ask_bind]
  by_cases hop : op = .authenticate
  · subst hop
    exact Or.inr ⟨Or.inl rfl, hauthenticate⟩
  · rw [opening_of_ne hop]
    cases held with
    | none => exact Or.inr ⟨Or.inr rfl, hauthenticate⟩
    | some h => exact Or.inl ⟨h, hop, rfl, rfl⟩

/-- Reads the result from the `answer` to the request of `op`. -/
def finish (c : Client S) (op : Operation) (answer : Http.Answer) : Job S Error (Reply S) :=
  ofExcept (Job.received answer >>= c.reply op)

/-- What becomes of a task in the session `h` that it opened. -/
inductive Acts (c : Client S) (op : Operation) (h : Held S) :
    Task.Pause (Option (Held S)) (Except Error (Reply S)) → Prop
  | asked {r : Http.Request} (hrequest : op.request? h.session = .ok (some r)) :
      Acts c op h (.waiting (.http r) (c.finish op))
  | ended {result : Except Error (Reply S)} {sent : List Exchange}
      (hfinishes : c.Finishes op (.ok h) result sent) : Acts c op h (.ended result)

theorem stroke_action_of_error {h : Held S} {e : Error} (hrequest : op.request? h.session = .error e) :
    Task.stroke (c.action op h) held = (.ended (.error e), held) := by
  rw [action, hrequest]
  rfl

theorem stroke_action_of_some {h : Held S} {r : Http.Request}
    (hrequest : op.request? h.session = .ok (some r)) :
    Task.stroke (c.action op h) held = (.waiting (.http r) (c.finish op), held) := by
  have hfinish : c.finish op = fun answer => ofExcept (Job.received answer) >>= fun response =>
      ofExcept (c.reply op response) := by
    funext answer
    rw [finish]
    cases Job.received answer <;> rfl
  rw [action, hrequest]
  dsimp only
  rw [Job.send_eq, bind_assoc, stroke_ask_bind, hfinish]

theorem acts_stroke_action (c : Client S) (op : Operation) (h : Held S) (held : Option (Held S)) :
    ∃ p, Task.stroke (c.action op h) held = (p, held) ∧ c.Acts op h p := by
  cases hrequest : op.request? h.session with
  | error e => exact ⟨_, stroke_action_of_error hrequest, .ended (.refused hrequest)⟩
  | ok r? =>
    cases r? with
    | none =>
      refine ⟨.ended (.ok (.session h)), ?_, .ended (.silent hrequest)⟩
      rw [action, hrequest]
      rfl
    | some r => exact ⟨_, stroke_action_of_some hrequest, .asked hrequest⟩

end Strokes

end Client

end JmapClient
