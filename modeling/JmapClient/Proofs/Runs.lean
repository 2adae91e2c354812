import JmapClient.Proofs.Operations

/-!
# Runs of a client

A run carries operations out one after the other, each with what the one before left (`Client.run`). What is
known of one operation of a run (`Call`) is said by two relations: how it opens a session (`Client.Opens`)
and how it goes on from there (`Client.Finishes`). They hold of every call of every run (`Client.sound_run`).
-/

namespace JmapClient.Client

variable {S : Schema}

/-- An operation in a run. -/
structure Call (S : Schema) where
  operation : Operation
  before : Option (Held S)
  /-- The session that was opened. -/
  opened : Except Error (Held S)
  /-- What was asked of the world to open a session. -/
  fetched : List Exchange
  /-- All that was asked of the world. -/
  exchanges : List Exchange
  result : Except Error (Reply S)
  after : Option (Held S)

/-- Carries `op` out in the world `w`. -/
def call (c : Client S) (w : World) (op : Operation) (before : Option (Held S)) (log : List Exchange) :
    Call S :=
  let opening := (c.opening op).runIn w before log
  let whole := (c.job op).runIn w before log
  { operation := op
    before
    opened := opening.result
    fetched := opening.log.drop log.length
    exchanges := whole.log.drop log.length
    result := whole.result
    after := whole.held }

/-- Carries operations out one after the other in the world `w`. -/
def run (c : Client S) (w : World) (before : Option (Held S)) (log : List Exchange) :
    List Operation → List (Call S)
  | [] => []
  | op :: ops =>
    let first := c.call w op before log
    first :: c.run w first.after (log ++ first.exchanges) ops

/-! ### What a call does -/

/-- How `op` opens a session: it keeps the one that the client holds or fetches one, from where the client knows to
fetch it. -/
inductive Opens (c : Client S) (op : Operation) :
    Option (Held S) → Except Error (Held S) → Option (Held S) → List Exchange → Prop
  | kept (h : Held S) (hop : op ≠ .authenticate) : Opens c op (some h) (.ok h) (some h) []
  | nowhere {before : Option (Held S)} (hfetch : op = .authenticate ∨ before = none)
      (hendpoint : c.endpoint = none) : Opens c op before (.error .noSessionEndpoint) before []
  | refused {before : Option (Held S)} {url : String} {answer : Http.Answer} {e : Error}
      (hfetch : op = .authenticate ∨ before = none) (hendpoint : c.endpoint = some url)
      (haccept : c.accept answer = .error e) :
      Opens c op before (.error e) before [⟨.http (.get url), answer⟩]
  | accepted {before : Option (Held S)} {url : String} {answer : Http.Answer} {h : Held S}
      (hfetch : op = .authenticate ∨ before = none) (hendpoint : c.endpoint = some url)
      (haccept : c.accept answer = .ok h.session) :
      Opens c op before (.ok h) (some h) [⟨.http (.get url), answer⟩]

/-- How `op` goes on from the session: it gives up, or has nothing to send, or sends a request and reads the answer. -/
inductive Finishes (c : Client S) (op : Operation) :
    Except Error (Held S) → Except Error (Reply S) → List Exchange → Prop
  | unopened (e : Error) : Finishes c op (.error e) (.error e) []
  | refused {h : Held S} {e : Error} (hrequest : op.request? h.session = .error e) :
      Finishes c op (.ok h) (.error e) []
  | silent {h : Held S} (hrequest : op.request? h.session = .ok none) :
      Finishes c op (.ok h) (.ok (.session h)) []
  | sent {h : Held S} {r : Http.Request} (hrequest : op.request? h.session = .ok (some r))
      (answer : Http.Answer) :
      Finishes c op (.ok h) (Job.received answer >>= c.reply op) [⟨.http r, answer⟩]

section

variable (c : Client S) (w : World) (op : Operation) (before : Option (Held S)) (log : List Exchange)

variable {op before} in
theorem opens_authenticate (hfetch : op = .authenticate ∨ before = none) :
    ∃ fetched, (c.authenticate.runIn w before log).log = log ++ fetched ∧
      c.Opens op before (c.authenticate.runIn w before log).result
        (c.authenticate.runIn w before log).held fetched := by
  cases hendpoint : c.endpoint with
  | none =>
    rw [runIn_authenticate_none hendpoint]
    exact ⟨[], (List.append_nil _).symm, .nowhere hfetch hendpoint⟩
  | some url =>
    rw [runIn_authenticate_some hendpoint]
    dsimp only
    cases haccept : c.accept (w log (.http (.get url))) with
    | error e => exact ⟨_, rfl, .refused hfetch hendpoint haccept⟩
    | ok session => exact ⟨_, rfl, .accepted hfetch hendpoint haccept⟩

theorem opens_opening :
    ∃ fetched, ((c.opening op).runIn w before log).log = log ++ fetched ∧
      c.Opens op before ((c.opening op).runIn w before log).result
        ((c.opening op).runIn w before log).held fetched := by
  by_cases hop : op = .authenticate
  · subst hop
    exact opens_authenticate c w log (Or.inl rfl)
  · rw [opening_of_ne hop]
    cases before with
    | none =>
      rw [runIn_currentSession_none]
      exact opens_authenticate c w log (Or.inr rfl)
    | some h =>
      rw [runIn_currentSession_some]
      exact ⟨[], (List.append_nil _).symm, .kept h hop⟩

theorem finishes_rest (h : Held S) (held : Option (Held S)) :
    ∃ sent, (c.rest w op h held log).log = log ++ sent ∧ (c.rest w op h held log).held = held ∧
      c.Finishes op (.ok h) (c.rest w op h held log).result sent := by
  unfold rest
  cases hrequest : op.request? h.session with
  | error e => exact ⟨[], (List.append_nil _).symm, rfl, .refused hrequest⟩
  | ok r? =>
    cases r? with
    | none => exact ⟨[], (List.append_nil _).symm, rfl, .silent hrequest⟩
    | some r => exact ⟨_, rfl, rfl, .sent hrequest _⟩

end

section

variable {c : Client S} {op : Operation} {opened : Except Error (Held S)} {sent : List Exchange}
  {result : Except Error (Reply S)}

theorem Finishes.of_error {e : Error} (h : c.Finishes op (.error e) result sent) :
    result = .error e ∧ sent = [] := by
  cases h
  exact ⟨rfl, rfl⟩

theorem Finishes.of_request?_error {held : Held S} {e : Error}
    (h : c.Finishes op (.ok held) result sent) (hrequest : op.request? held.session = .error e) :
    result = .error e ∧ sent = [] := by
  cases h with
  | refused hrefused =>
    rw [hrequest] at hrefused
    obtain rfl := Except.error.inj hrefused
    exact ⟨rfl, rfl⟩
  | silent hsilent =>
    rw [hrequest] at hsilent
    cases hsilent
  | sent hsent answer =>
    rw [hrequest] at hsent
    cases hsent

/-- What is sent after a session was opened is the one request that the operation makes in it (`request?`). -/
theorem Finishes.sent_eq (h : c.Finishes op opened result sent) :
    sent = [] ∨ ∃ held r answer, opened = .ok held ∧ op.request? held.session = .ok (some r) ∧
      sent = [⟨.http r, answer⟩] := by
  cases h with
  | unopened e => exact Or.inl rfl
  | refused hrequest => exact Or.inl rfl
  | silent hrequest => exact Or.inl rfl
  | sent hrequest answer => exact Or.inr ⟨_, _, answer, rfl, hrequest, rfl⟩

end

/-- A call opens a session (`Opens`) and goes on from there (`Finishes`). -/
structure Call.Sound (c : Client S) (call : Call S) : Prop where
  opens : c.Opens call.operation call.before call.opened call.after call.fetched
  finishes : ∃ sent, call.exchanges = call.fetched ++ sent ∧
    c.Finishes call.operation call.opened call.result sent

theorem sound_call (c : Client S) (w : World) (op : Operation) (before : Option (Held S))
    (log : List Exchange) : (c.call w op before log).Sound c := by
  obtain ⟨fetched, hlog, hopens⟩ := opens_opening c w op before log
  unfold call
  rw [runIn_job]
  generalize (c.opening op).runIn w before log = o at hlog hopens ⊢
  obtain ⟨opened, held, log'⟩ := o
  obtain rfl : log' = log ++ fetched := hlog
  cases opened with
  | error e => exact ⟨by simpa using hopens, [], by simp, .unopened e⟩
  | ok h =>
    obtain ⟨sent, hsent, hheld, hfinishes⟩ := finishes_rest c w op (log ++ fetched) h held
    refine ⟨?_, sent, ?_, hfinishes⟩
    · simpa [hheld] using hopens
    · simp [hsent]

section

variable {c : Client S} {w : World} {before : Option (Held S)} {log : List Exchange}
  {ops : List Operation}

/-- A run goes on from what its first call left. -/
theorem run_eq_cons {first : Call S} {rest : List (Call S)}
    (h : c.run w before log ops = first :: rest) :
    ∃ op ops', ops = op :: ops' ∧ first = c.call w op before log ∧
      c.run w first.after (log ++ first.exchanges) ops' = rest := by
  cases ops with
  | nil => cases h
  | cons op ops' =>
    obtain ⟨rfl, hrest⟩ := List.cons.inj h
    exact ⟨op, ops', rfl, rfl, hrest⟩

theorem sound_run : ∀ call ∈ c.run w before log ops, call.Sound c := by
  induction ops generalizing before log with
  | nil => simp [run]
  | cons op ops ih =>
    intro call hcall
    rcases List.mem_cons.1 hcall with rfl | hcall
    · exact sound_call c w op before log
    · exact ih call hcall

end

end JmapClient.Client
