import JmapClient.Command.Transfer
import JmapClient.Proofs.Transfers

/-!
# What commands have in common

A command that works in a session opens one first, and then does all that it does in this very session, which is held
from then on (`Client.runIn_opened_bind`, `Client.runIn_transfer_bind`).
-/

namespace JmapClient.Client

variable {S : Schema} {α β : Type}

/-- A session is fetched by nothing but a request. -/
theorem ComesBy.exists_http {c : Client S} {w : World} {before : Option (Held S)} {log fetched : List Exchange}
    {opened : Except Error (Session S)} (h : c.ComesBy w before log opened fetched) :
    ∀ x ∈ fetched, ∃ r, x.effect = .http r := by
  cases before with
  | some held => simp [(h.of_held held rfl).2]
  | none =>
    cases hendpoint : c.endpoint with
    | none => simp [(h.of_nowhere rfl hendpoint).2]
    | some url => simp [(h.of_endpoint url rfl hendpoint).1]

/-- A command opens a session and goes on in it by `f`, or else it ends with what kept it from having one. -/
theorem runIn_opened_bind (c : Client S) (w : World) (before : Option (Held S)) (log : List Exchange)
    (k : Held S → Job S Failure α) :
    ∃ (opened : Except Error (Held S)) (fetched : List Exchange) (held : Option (Held S)),
      c.ComesBy w before log (opened.map (·.session)) fetched ∧
      (ExceptT.adapt Failure.client c.currentSession >>= k : Job S Failure α).runIn w before log =
        match opened with
        | .ok h => (k h).runIn w (some h) (log ++ fetched)
        | .error e => ⟨.error (.client e), held, log ++ fetched⟩ := by
  obtain ⟨fetched, hlog, hcomes⟩ := comesBy_currentSession c w before log
  obtain ⟨-, hheld⟩ := held_currentSession c w before log
  rw [Job.runIn_bind, Job.runIn_adapt]
  generalize c.currentSession.runIn w before log = o at hlog hcomes hheld
  obtain ⟨opened, held, log'⟩ := o
  obtain rfl : log' = log ++ fetched := hlog
  refine ⟨opened, fetched, held, hcomes, ?_⟩
  cases opened with
  | error e => rfl
  | ok h =>
    obtain rfl : held = some h := hheld h rfl
    rfl

/-- A command does the transfer `t` in the session that is held, and goes on with what came of it. -/
theorem runIn_transfer_bind (c : Client S) (w : World) (t : Transfer α) (h : Held S) (log : List Exchange)
    (k : α → Job S Failure β) :
    ∃ sent result, Transfers w t log (.ok h.session) sent result ∧
      (ExceptT.adapt Failure.client (c.transfer t) >>= k : Job S Failure β).runIn w (some h) log =
        match result with
        | .ok x => (k x).runIn w (some h) (log ++ sent)
        | .error e => ⟨.error (.client e), some h, log ++ sent⟩ := by
  obtain ⟨sent, result, htransfers, hmove⟩ := transfers_move w t (some h) log h
  have htransfer : (c.transfer t).runIn w (some h) log = ⟨result, some h, log ++ sent⟩ := by
    rw [transfer_eq, Job.runIn_bind, runIn_currentSession_some]
    exact hmove
  refine ⟨sent, result, htransfers, ?_⟩
  rw [Job.runIn_bind, Job.runIn_adapt, htransfer]
  cases result <;> rfl

end JmapClient.Client
