import JmapClient.Task

/-!
# Strokes of tasks

What a task does between two questions it does at a stroke (`Task.stroke`). A task that is made of two does the strokes
of the first and then those of the second (`Task.stroke_bind`).
-/

namespace JmapClient.Task

variable {σ α β : Type}

/-- Where a task is between two strokes: it waits for an answer, or has ended. -/
inductive Pause (σ α : Type) : Type
  | ended (a : α)
  | waiting (e : Effect) (k : e.Answer → Task σ α)

/-- Carries a task out up to its next `Pause`. The second part is the state then. -/
def stroke : Task σ α → σ → Pause σ α × σ
  | .done a, s => (.ended a, s)
  | .look k, s => (k s).stroke s
  | .put s k, _ => k.stroke s
  | .ask e k, s => (.waiting e k, s)

theorem stroke_bind (t : Task σ α) (f : α → Task σ β) (s : σ) :
    (t.bind f).stroke s =
      match t.stroke s with
      | (.ended a, s) => (f a).stroke s
      | (.waiting e k, s) => (.waiting e fun a => (k a).bind f, s) := by
  induction t generalizing s with
  | done a => rfl
  | look k ih => exact ih s s
  | put s' k ih => exact ih s'
  | ask e k => rfl

end JmapClient.Task
