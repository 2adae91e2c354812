import JmapClient.Proofs.Strands

/-!
# Jobs that take turns

Jobs that share a client take turns: a turn begins one of them or hands one the answer that it waits for, and ends where
the job asks for something again or is done (`Client.Turn`). Each turn is a stroke or two of a strand
(`Client.Turn.simulated`), so jobs come to nothing that strands do not come to (`Client.Turns.simulated`). A job that is
carried out on its own takes all turns itself (`Client.turns_runIn`).
-/

namespace JmapClient

variable {S : Schema}

/-- Where a job is between two turns. -/
abbrev Client.JobPause (S : Schema) : Type := Task.Pause (Option (Held S)) (Except Error (Client.Reply S))

/-- A client that is shared by jobs, each with its operation. -/
structure Jobs (S : Schema) where
  held : Option (Held S)
  jobs : List (Client.Operation × Client.JobPause S)

/-- A client without jobs, with the session that is `held`. -/
def Jobs.start (held : Option (Held S)) : Jobs S := ⟨held, []⟩

namespace Client

/-- One of the jobs takes a turn: a new one begins, or one receives the answer that it waits for. -/
inductive Turn (c : Client S) (x : Jobs S) : Jobs S → Prop
  | begin {op p held} (hstroke : Task.stroke (c.job op) x.held = (p, held)) : Turn c x ⟨held, x.jobs ++ [(op, p)]⟩
  | receive {i op e k p held} (hi : x.jobs[i]? = some (op, .waiting e k)) (answer : e.Answer)
      (hstroke : (k answer).stroke x.held = (p, held)) : Turn c x ⟨held, x.jobs.set i (op, p)⟩

/-- What is reached in any number of turns (`Turn`). -/
abbrev Turns (c : Client S) : Jobs S → Jobs S → Prop := Relation.ReflTransGen (Turn c)

/-- A strand is where a job is between two turns. -/
inductive Matches (c : Client S) : Strand S → Operation × JobPause S → Prop
  | opening {op e k} :
      Matches c ⟨op, .opening (.waiting e k)⟩ (op, .waiting e fun a => bind (m := Job S Error) (k a) (c.action op))
  | failed {op e} : Matches c ⟨op, .opening (.ended (.error e))⟩ (op, .ended (.error e))
  | acting {op h p} : Matches c ⟨op, .acting h p⟩ (op, p)

/-- The strokes of a job with two parts are those of `j` and then, unless it fails, those of the second. -/
theorem stroke_andThen {ε α β : Type} (j : Job S ε α) (f : α → Job S ε β) (held : Option (Held S)) :
    Task.stroke (bind (m := Job S ε) j f) held =
      match Task.stroke j held with
      | (.ended (.ok a), held) => Task.stroke (f a) held
      | (.ended (.error e), held) => (.ended (.error e), held)
      | (.waiting e k, held) => (.waiting e fun a => bind (m := Job S ε) (k a) f, held) := by
  refine (Task.stroke_bind j _ held).trans ?_
  obtain ⟨p, held'⟩ := Task.stroke j held
  cases p with
  | waiting e k => rfl
  | ended result => cases result <;> rfl

section Simulation

variable {c : Client S} {x : Shared S} {y z : Jobs S}

theorem set_eq_self {α : Type} {l : List α} {i : Nat} {a : α} (h : l[i]? = some a) : l.set i a = l := by
  obtain ⟨hi, rfl⟩ := List.getElem?_eq_some_iff.1 h
  exact List.set_getElem_self hi

theorem exists_getElem?_of_forall₂ {α β : Type} {R : α → β → Prop} {l : List α} {m : List β}
    (h : List.Forall₂ R l m) {i : Nat} {b : β} (hi : m[i]? = some b) : ∃ a, l[i]? = some a ∧ R a b := by
  induction h generalizing i with
  | nil => simp at hi
  | cons hab _ ih =>
    cases i with
    | zero =>
      obtain rfl := Option.some.inj hi
      exact ⟨_, rfl, hab⟩
    | succ i => exact ih hi

theorem forall₂_set {α β : Type} {R : α → β → Prop} {l : List α} {m : List β} (h : List.Forall₂ R l m) {a : α} {b : β}
    (hab : R a b) (i : Nat) : List.Forall₂ R (l.set i a) (m.set i b) := by
  induction h generalizing i with
  | nil => exact .nil
  | cons hfirst hrest ih =>
    cases i with
    | zero => exact .cons hab hrest
    | succ i => exact .cons hfirst (ih i)

/-- A strand that has done a stroke of its opening is where its job is, once it acts in the session that it opened. -/
theorem exists_matches {i : Nat} {op : Operation} {j : Job S Error (Held S)} {before held : Option (Held S)}
    {opening : Task.Pause (Option (Held S)) (Except Error (Held S))} {p : JobPause S}
    (hopening : Task.stroke j before = (opening, x.held))
    (hstroke : Task.stroke (bind (m := Job S Error) j (c.action op)) before = (p, held))
    (hi : x.strands[i]? = some ⟨op, .opening opening⟩) :
    ∃ t, Reaches c x ⟨held, x.strands.set i t, x.fetched⟩ ∧ Matches c t (op, p) := by
  rw [stroke_andThen, hopening] at hstroke
  have hstays : (⟨x.held, x.strands.set i ⟨op, .opening opening⟩, x.fetched⟩ : Shared S) = x := by
    rw [set_eq_self hi]
  rcases opening with (e | h) | ⟨e, k⟩
  · obtain ⟨rfl, rfl⟩ := Prod.mk.inj hstroke
    exact ⟨_, by rw [hstays], .failed⟩
  · exact ⟨_, .single (.act hi hstroke), .acting⟩
  · obtain ⟨rfl, rfl⟩ := Prod.mk.inj hstroke
    exact ⟨_, by rw [hstays], .opening⟩

/-- Strands can do what a `Turn` of a job does. -/
theorem Turn.simulated (h : Turn c y z) (hheld : x.held = y.held)
    (hmatches : List.Forall₂ (Matches c) x.strands y.jobs) :
    ∃ x', Reaches c x x' ∧ x'.held = z.held ∧ List.Forall₂ (Matches c) x'.strands z.jobs := by
  cases h with
  | @begin op p held hstroke =>
    obtain ⟨opening, held', hopening⟩ : ∃ opening held', Task.stroke (c.opening op) x.held = (opening, held') :=
      ⟨_, _, rfl⟩
    rw [job_eq, ← hheld] at hstroke
    obtain ⟨t, hreaches, ht⟩ := exists_matches (x := ⟨held', x.strands ++ [⟨op, .opening opening⟩], x.fetched⟩)
      hopening hstroke List.getElem?_concat_length
    refine ⟨_, .head (.begin hopening) hreaches, rfl, ?_⟩
    rw [List.set_append_right _ _ (Nat.le_refl _), Nat.sub_self]
    exact List.rel_append hmatches (.cons ht .nil)
  | @receive i op e k p held hi answer hstroke =>
    obtain ⟨t, ht, hmatch⟩ := exists_getElem?_of_forall₂ hmatches hi
    rw [← hheld] at hstroke
    cases hmatch with
    | @opening _ _ k =>
      obtain ⟨opening, held', hopening⟩ : ∃ opening held', (k answer).stroke x.held = (opening, held') := ⟨_, _, rfl⟩
      have hlt := (List.getElem?_eq_some_iff.1 ht).1
      obtain ⟨t, hreaches, ht'⟩ := exists_matches (x := ⟨held', x.strands.set i ⟨op, .opening opening⟩,
        x.fetched ++ [(i, ⟨e, answer⟩)]⟩) hopening hstroke (List.getElem?_set_self hlt)
      refine ⟨_, .head (.fetch ht answer hopening) hreaches, rfl, ?_⟩
      rw [List.set_set]
      exact forall₂_set hmatches ht' i
    | acting => exact ⟨_, .single (.receive ht answer hstroke), rfl, forall₂_set hmatches .acting i⟩

/-- Whatever jobs come to, strands come to it (`Matches`). -/
theorem Turns.simulated {held : Option (Held S)} (h : Turns c (.start held) y) :
    ∃ x, Reaches c (.start held) x ∧ x.held = y.held ∧ List.Forall₂ (Matches c) x.strands y.jobs := by
  induction h with
  | refl => exact ⟨_, .refl, rfl, .nil⟩
  | tail _ hturn ih =>
    obtain ⟨x, hx, hheld, hmatches⟩ := ih
    obtain ⟨x', hreaches, hheld', hmatches'⟩ := hturn.simulated hheld hmatches
    exact ⟨x', hx.trans hreaches, hheld', hmatches'⟩

end Simulation

/-! ### A single job -/

theorem turns_perform (c : Client S) (w : World) (op : Operation)
    (t : Task (Option (Held S)) (Except Error (Reply S))) (before : Option (Held S)) (log : List Exchange) :
    Turns c ⟨(t.stroke before).2, [(op, (t.stroke before).1)]⟩
      ⟨((t.perform w.answer before).run log).1.2, [(op, .ended ((t.perform w.answer before).run log).1.1)]⟩ := by
  induction t generalizing before log with
  | done result => exact .refl
  | look k ih => exact ih before before log
  | put after k ih => exact ih after log
  | ask e k ih =>
    let asked : Exchange := ⟨e, w log e⟩
    exact .head (.receive (i := 0) rfl (w log e) rfl) (ih (w log e) before (log ++ [asked]))

/-- What a job comes to in a world (`runIn`) it comes to in turns, when there is no other. -/
theorem turns_runIn (c : Client S) (w : World) (op : Operation) (before : Option (Held S)) (log : List Exchange) :
    let o := (c.job op).runIn w before log
    Turns c (.start before) ⟨o.held, [(op, .ended o.result)]⟩ :=
  .head (.begin rfl) (turns_perform c w op (c.job op) before log)

end Client

end JmapClient
