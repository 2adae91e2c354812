import JmapClient.Client
import JmapClient.Proofs.Except

/-!
# Jobs in a world

A `World` answers whatever a job asks, and what it answers may depend on all that was asked before. A job
that is carried out in a world (`Job.runIn`) has a result, leaves the client with a session or without, and
makes the log of what was asked and answered longer. What the parts of a job come to is said once for each of
them, and `Job.runIn_bind` puts the parts together.
-/

namespace JmapClient

instance : ∀ e : Effect, DecidableEq e.Answer
  | .http _ => inferInstanceAs (DecidableEq (Except Http.Failure Http.Response))
  | .isPresent _ => inferInstanceAs (DecidableEq Bool)
  | .read _ => inferInstanceAs (DecidableEq (Except FileFault Bytes))
  | .write _ _ | .restrict _ _ => inferInstanceAs (DecidableEq (Except FileFault Unit))
  | .lookUp _ => inferInstanceAs (DecidableEq (Except String (List ServiceRecord)))

/-- What was asked of the world, and the answer. -/
structure Exchange where
  effect : Effect
  answer : effect.Answer
deriving DecidableEq

/-- A world, as its answer to a question after all that it was asked before. -/
abbrev World : Type := List Exchange → (e : Effect) → e.Answer

/-- The answer to `e`, which is added to the log. -/
def World.answer (w : World) (e : Effect) : StateM (List Exchange) e.Answer :=
  fun log => (w log e, log ++ [⟨e, w log e⟩])

/-- A world that answers requests with `answers`, one after the other, and in which there is nothing else. -/
def World.scripted (answers : List Http.Answer) : World
  | log, .http _ => answers[log.length]?.getD (.error ⟨none, "no answer is left"⟩)
  | _, .isPresent _ => false
  | _, .read _ => .error .notFound
  | _, .write _ _ => .error .notDirectory
  | _, .restrict _ _ => .error .notFound
  | _, .lookUp _ => .ok []

/-- What a job comes to: its result, what the client holds in the end, and all that the world was asked. -/
structure Job.Outcome (S : Schema) (ε α : Type) where
  result : Except ε α
  held : Option (Held S)
  log : List Exchange

/-! ### Tasks -/

instance {σ : Type} : LawfulMonad (Task σ) :=
  .mk' _ (fun t => t.bind_done) (fun _ _ => rfl) (fun t f g => t.bind_assoc f g)

/-- What a task that goes on with another comes to. -/
theorem Task.perform_bind {σ α β : Type} (w : World) (t : Task σ α) (f : α → Task σ β) (s : σ)
    (log : List Exchange) :
    ((t.bind f).perform w.answer s).run log =
      let ((a, s'), log') := (t.perform w.answer s).run log
      ((f a).perform w.answer s').run log' := by
  induction t generalizing s log with
  | done a => rfl
  | look k ih => exact ih s s log
  | put s' k ih => exact ih s' log
  | ask e k ih => exact ih (w log e) s (log ++ [⟨e, w log e⟩])

namespace Job

variable {S : Schema} {ε α β : Type} {w : World} {before : Option (Held S)} {log : List Exchange}

/-- Carries `j` out in the world `w`. -/
def runIn (w : World) (j : Job S ε α) (before : Option (Held S)) (log : List Exchange) :
    Outcome S ε α :=
  let ((result, held), log) := (Task.perform w.answer j before).run log
  ⟨result, held, log⟩

/-! ### The parts of a job -/

theorem runIn_pure (a : α) : (pure a : Job S ε α).runIn w before log = ⟨.ok a, before, log⟩ := rfl

theorem runIn_throw (e : ε) : (throw e : Job S ε α).runIn w before log = ⟨.error e, before, log⟩ := rfl

theorem runIn_ofExcept (x : Except ε α) :
    (ofExcept x : Job S ε α).runIn w before log = ⟨x, before, log⟩ := by
  cases x <;> rfl

theorem pure_eq_ofExcept (a : α) : (pure a : Job S ε α) = ofExcept (.ok a) := rfl

theorem runIn_held : (held : Job S ε _).runIn w before log = ⟨.ok before, before, log⟩ := rfl

theorem runIn_hold (session : Session S) :
    (hold session : Job S ε _).runIn w before log =
      let next : Held S := ⟨before.elim 0 (·.number + 1), session⟩
      ⟨.ok next, some next, log⟩ := rfl

/-- A job goes on by `f` with the result of its first part, unless that is an error. -/
theorem runIn_bind (j : Job S ε α) (f : α → Job S ε β) :
    (j >>= f).runIn w before log =
      match j.runIn w before log with
      | ⟨.ok a, held, log⟩ => (f a).runIn w held log
      | ⟨.error e, held, log⟩ => ⟨.error e, held, log⟩ := by
  have hbind : (j >>= f : Job S ε β) = Task.bind j (ExceptT.bindCont f) := rfl
  unfold runIn
  rw [hbind, Task.perform_bind]
  obtain ⟨⟨result, held⟩, log'⟩ := (Task.perform w.answer j before).run log
  cases result <;> rfl

theorem runIn_ask (e : Effect) :
    (ask e : Job S ε _).runIn w before log = ⟨.ok (w log e), before, log ++ [⟨e, w log e⟩]⟩ := rfl

theorem runIn_ofExcept_bind (x : Except ε α) (f : α → Job S ε β) :
    (ofExcept x >>= f).runIn w before log =
      match x with
      | .ok a => (f a).runIn w before log
      | .error e => ⟨.error e, before, log⟩ := by
  rw [runIn_bind, runIn_ofExcept]
  cases x <;> rfl

theorem runIn_ask_bind (e : Effect) (f : e.Answer → Job S ε β) :
    (ask e >>= f).runIn w before log = (f (w log e)).runIn w before (log ++ [⟨e, w log e⟩]) := by
  rw [runIn_bind, runIn_ask]

/-- The errors of a job may be taken to be others by `f`. -/
theorem runIn_adapt {ε' : Type} (f : ε → ε') (j : Job S ε α) :
    runIn w (ExceptT.adapt f j) before log =
      ⟨(j.runIn w before log).result.mapError f, (j.runIn w before log).held, (j.runIn w before log).log⟩ := by
  have hadapt : (ExceptT.adapt f j : Job S ε' α) = Task.bind j fun result => .done (result.mapError f) := rfl
  unfold runIn
  rw [hadapt, Task.perform_bind]
  rfl

/-- What comes of a request, as an error of the client if it is a failure. -/
def received : Http.Answer → Except Error Http.Response
  | .ok response => .ok response
  | .error failure => .error (.http failure)

theorem send_eq (r : Http.Request) :
    (send r : Job S Error _) = ask (.http r) >>= fun answer => ofExcept (received answer) := by
  refine congrArg (ask (.http r) >>= ·) (funext fun answer => ?_)
  cases answer <;> rfl

theorem runIn_send (r : Http.Request) :
    (send r : Job S Error _).runIn w before log =
      ⟨received (w log (.http r)), before, log ++ [⟨.http r, w log (.http r)⟩]⟩ := by
  rw [send_eq, runIn_ask_bind]
  exact runIn_ofExcept _

end Job

end JmapClient
