import JmapClient.Proofs.Runs

/-!
# The session of a client

Over a run a client holds the session that it last fetched with success, or the one that it had at first
(`Client.held_run`). A fetch that fails leaves the session as it is, and nothing is fetched where a session is
held and no other was asked for.
-/

namespace JmapClient.Client

open Json

variable {S : Schema}

/-- The session in an answer that has status `200` and a body that is accepted. -/
def accepted? (c : Client S) : Exchange → Option (Session S)
  | ⟨.http _, .ok r⟩ =>
    if r.status = 200 then (Session.ofBytes c.registry.capabilities r.body).toOption else none
  | _ => none

/-- The sessions that were fetched in `calls`, in their order. -/
def sessions (c : Client S) (calls : List (Call S)) : List (Session S) :=
  (calls.flatMap (·.fetched)).filterMap c.accepted?

section

variable {c : Client S} {op : Operation} {before after : Option (Held S)}
  {opened : Except Error (Held S)} {fetched : List Exchange}

theorem accepted?_eq (c : Client S) (r : Http.Request) (answer : Http.Answer) :
    c.accepted? ⟨.http r, answer⟩ = (c.accept answer).toOption := by
  cases answer with
  | error failure => rfl
  | ok response =>
    by_cases h : response.status = 200
    · simp [accepted?, accept, Http.Response.isOk, h]
    · simp [accepted?, accept, Http.Response.isOk, h, Except.toOption]

/-- Opening a session leaves the client with the session that was `fetched`, or else with the one `before`. -/
theorem Opens.map_session (h : c.Opens op before opened after fetched) :
    after.map (·.session) = (fetched.filterMap c.accepted?).getLast?.or (before.map (·.session)) := by
  cases h with
  | kept h hop => rfl
  | nowhere hfetch hendpoint => rfl
  | refused hfetch hendpoint haccept => simp [accepted?_eq, haccept, Except.toOption]
  | accepted hfetch hendpoint haccept => simp [accepted?_eq, haccept, Except.toOption]

theorem Opens.eq_of_accepted?_eq_none (h : c.Opens op before opened after fetched)
    (hnone : ∀ x ∈ fetched, c.accepted? x = none) : after = before := by
  cases h with
  | kept h hop => rfl
  | nowhere hfetch hendpoint => rfl
  | refused hfetch hendpoint haccept => rfl
  | accepted hfetch hendpoint haccept =>
    have hx := hnone _ (List.mem_singleton_self _)
    simp [accepted?_eq, haccept, Except.toOption] at hx

theorem Opens.fetched_of_some {url : String} (h : c.Opens op before opened after fetched)
    (hendpoint : c.endpoint = some url) :
    (op = .authenticate ∨ before = none → ∃ answer, fetched = [⟨.http (.get url), answer⟩]) ∧
      (op ≠ .authenticate → before ≠ none → fetched = []) := by
  cases h with
  | kept h hop =>
    refine ⟨fun hfetch => ?_, fun _ _ => rfl⟩
    rcases hfetch with hauth | hnone
    · exact absurd hauth hop
    · cases hnone
  | nowhere hfetch hnone => simp [hnone] at hendpoint
  | @refused _ url' answer _ hfetch hsome _ | @accepted _ url' answer _ hfetch hsome _ =>
    obtain rfl : url' = url := Option.some.inj (hsome.symm.trans hendpoint)
    refine ⟨fun _ => ⟨answer, rfl⟩, fun hop hbefore => ?_⟩
    rcases hfetch with hauth | hnone
    · exact absurd hauth hop
    · exact absurd hnone hbefore

theorem Opens.of_endpoint_none (h : c.Opens op before opened after fetched)
    (hendpoint : c.endpoint = none) :
    fetched = [] ∧
      (op = .authenticate ∨ before = none → opened = .error .noSessionEndpoint) := by
  cases h with
  | kept h hop =>
    refine ⟨rfl, fun hfetch => ?_⟩
    rcases hfetch with hauth | hnone
    · exact absurd hauth hop
    · cases hnone
  | nowhere hfetch hnone => exact ⟨rfl, fun _ => rfl⟩
  | refused hfetch hsome haccept => simp [hendpoint] at hsome
  | accepted hfetch hsome haccept => simp [hendpoint] at hsome

end

/-! ### Runs -/

section

variable {c : Client S} {w : World} {before : Option (Held S)} {log : List Exchange}
  {ops : List Operation} {earlier later : List (Call S)} {call : Call S}

theorem sessions_append (c : Client S) (calls more : List (Call S)) :
    c.sessions (calls ++ more) = c.sessions calls ++ c.sessions more := by
  simp [sessions]

theorem Call.Sound.map_session (h : call.Sound c) :
    call.after.map (·.session) = (c.sessions [call]).getLast?.or (call.before.map (·.session)) := by
  rw [h.opens.map_session]
  simp [sessions]

/-- Every call finds what the one before it left. -/
theorem before_eq_of_run (h : c.run w before log ops = earlier ++ call :: later) :
    call.before = (earlier.getLast?.map (·.after)).getD before := by
  induction earlier generalizing before log ops with
  | nil =>
    obtain ⟨op, ops', -, rfl, -⟩ := run_eq_cons h
    rfl
  | cons first earlier ih =>
    obtain ⟨op, ops', -, rfl, hrest⟩ := run_eq_cons h
    rw [ih hrest, List.getLast?_cons]
    cases earlier.getLast? <;> rfl

/-- What the client holds after a call is the last session that was fetched up to then (`sessions`). -/
theorem map_session_of_run (h : c.run w before log ops = earlier ++ call :: later) :
    call.after.map (·.session) =
      (c.sessions (earlier ++ [call])).getLast?.or (before.map (·.session)) := by
  induction earlier generalizing before log ops with
  | nil =>
    obtain ⟨op, ops', -, rfl, -⟩ := run_eq_cons h
    exact (sound_call c w op before log).map_session
  | cons first earlier ih =>
    obtain ⟨op, ops', -, rfl, hrest⟩ := run_eq_cons h
    calc call.after.map (·.session)
        = (c.sessions (earlier ++ [call])).getLast?.or
            ((c.call w op before log).after.map (·.session)) := ih hrest
      _ = (c.sessions (earlier ++ [call])).getLast?.or
            ((c.sessions [c.call w op before log]).getLast?.or (before.map (·.session))) := by
          rw [(sound_call c w op before log).map_session]
          rfl
      _ = (c.sessions ([c.call w op before log] ++ (earlier ++ [call]))).getLast?.or
            (before.map (·.session)) := by
          rw [sessions_append c [c.call w op before log], List.getLast?_append, Option.or_assoc]

/-- After each call of a run the client holds the session of the last fetch that was accepted, and it fetches one
exactly if it is told to (`authenticate`) or holds none. -/
theorem held_run (h : c.run w before log ops = earlier ++ call :: later) :
    call.before = (earlier.getLast?.map (·.after)).getD before ∧
      call.after.map (·.session) =
        (c.sessions (earlier ++ [call])).getLast?.or (before.map (·.session)) ∧
      (call.before.isSome → call.after.isSome) ∧
      ((∀ x ∈ call.fetched, c.accepted? x = none) → call.after = call.before) ∧
      (∀ url, c.endpoint = some url →
        (call.operation = .authenticate ∨ call.before = none →
          ∃ answer, call.fetched = [⟨.http (.get url), answer⟩]) ∧
        (call.operation ≠ .authenticate → call.before ≠ none → call.fetched = [])) ∧
      (c.endpoint = none → call.fetched = [] ∧
        (call.operation = .authenticate ∨ call.before = none →
          call.exchanges = [] ∧ call.result = .error .noSessionEndpoint)) ∧
      ∃ sent, call.exchanges = call.fetched ++ sent ∧
        (sent = [] ∨ ∃ held r answer, call.opened = .ok held ∧
          call.operation.request? held.session = .ok (some r) ∧ sent = [⟨.http r, answer⟩]) := by
  have hsound : call.Sound c := sound_run call (by rw [h]; simp)
  obtain ⟨sent, hsent, hfinishes⟩ := hsound.finishes
  refine ⟨before_eq_of_run h, map_session_of_run h, fun hbefore => ?_,
    hsound.opens.eq_of_accepted?_eq_none, fun url => hsound.opens.fetched_of_some,
    fun hendpoint => ?_, sent, hsent, hfinishes.sent_eq⟩
  · have hsome : (call.after.map (·.session)).isSome := by
      rw [hsound.map_session]
      simp [hbefore]
    simpa using hsome
  · obtain ⟨hfetched, hopened⟩ := hsound.opens.of_endpoint_none hendpoint
    refine ⟨hfetched, fun hfetch => ?_⟩
    rw [hopened hfetch] at hfinishes
    obtain ⟨hresult, rfl⟩ := hfinishes.of_error
    exact ⟨by rw [hsent, hfetched]; rfl, hresult⟩

end

/-- A session is fetched because none is held. When the server refuses to give another, it is kept. -/
theorem held_run_refused :
    let body := Utf8.encode
      "\x7b\"capabilities\":\x7b\x7d,\"accounts\":\x7b\x7d,\"primaryAccounts\":\x7b\x7d,\"apiUrl\":\"a\"\x7d"
    let c : Client Schema.core := ⟨.core, some "e"⟩
    let w := World.scripted [.ok ⟨200, none, body⟩, .ok ⟨500, none, []⟩]
    let first := c.call w .currentSession none []
    let second := c.call w .authenticate first.after first.exchanges
    c.run w none [] [.currentSession, .authenticate] = [first] ++ second :: [] ∧
      first.after.map (·.session.document.apiUrl) = some "a" ∧ second.after = first.after := by
  intro body c w first second
  have hrun : c.run w none [] [.currentSession, .authenticate] = [first] ++ second :: [] := rfl
  have hfirst : first.after.map (·.session.document.apiUrl) = some "a" := by decide +kernel
  have hrefused : (second.fetched.all fun x => (c.accepted? x).isNone) = true := by decide +kernel
  obtain ⟨hbefore, -, -, hkept, -⟩ := held_run hrun
  refine ⟨hrun, hfirst, ?_⟩
  rw [hkept fun x hx => Option.isNone_iff_eq_none.1 (List.all_eq_true.1 hrefused x hx)]
  exact hbefore

end JmapClient.Client
