import JmapClient.Proofs.Batches
import JmapClient.Proofs.Support

/-!
# Executing a batch

To execute a batch a client comes by a session (`Client.ComesBy`), and then posts the batch or tells what kept it
from that (`Client.Executes`). That is all that the world is asked, in this order and each at most once
(`Client.execute_exact`).
-/

namespace JmapClient

open Json

variable {S : Schema}

theorem Request.exists_toText_iff {r : Request} :
    (∃ text, toText r = .ok text) ↔ ∀ id ∈ r.allIds, id.Valid := by
  rw [← Request.faithful.written_iff]
  simp [toText, map_eq_ok_iff]

theorem Http.Response.refusal_cases (r : Http.Response) :
    (∃ e, r.refusal = .request e) ∨ r.refusal = .status r.status r.bodyText := by
  unfold refusal
  split
  · split
    · exact Or.inl ⟨_, rfl⟩
    · exact Or.inr rfl
  · exact Or.inr rfl

theorem Job.runIn_map {ε α β : Type} {w : World} {before : Option (Held S)} {log : List Exchange} (f : α → β)
    (j : Job S ε α) :
    (f <$> j).runIn w before log =
      ⟨(j.runIn w before log).result.map f, (j.runIn w before log).held, (j.runIn w before log).log⟩ := by
  rw [map_eq_pure_bind, runIn_bind]
  obtain ⟨result, held, log'⟩ := j.runIn w before log
  cases result <;> rfl

namespace Client

/-- How a client comes by a session: it has one `before`, or fetches one, if it knows where. -/
structure ComesBy (c : Client S) (w : World) (before : Option (Held S)) (log : List Exchange)
    (opened : Except Error (Session S)) (fetched : List Exchange) : Prop where
  of_held : ∀ h, before = some h → opened = .ok h.session ∧ fetched = []
  of_nowhere : before = none → c.endpoint = none → opened = .error .noSessionEndpoint ∧ fetched = []
  of_endpoint : ∀ url, before = none → c.endpoint = some url →
    fetched = [⟨.http (.get url), w log (.http (.get url))⟩] ∧ opened = c.accept (w log (.http (.get url)))

/-- What is read of the `answer` to a batch. -/
def answered (c : Client S) (answer : Http.Answer) : Except Error (Response S) := do
  let response ← Job.received answer
  if response.isOk then Response.ofBytes c.registry.methods response.body else .error response.refusal

/-- What comes of a batch once a session was opened, or was not: what is posted, and the result. -/
inductive Executes (c : Client S) (w : World) (r : Request) (log : List Exchange) :
    Except Error (Session S) → List Exchange → Except Error (Response S) → Prop
  | unopened (e : Error) : Executes c w r log (.error e) [] (.error e)
  | unsupported {s : Session S} {u : Uri}
      (hmissing : r.uses.find? (· ∉ s.document.capabilities.keys) = some u) :
      Executes c w r log (.ok s) [] (.error (.unsupportedCapability u))
  | unwritten {s : Session S} {p : Problem} (huses : ∀ u ∈ r.uses, u ∈ s.document.capabilities.keys)
      (htext : toText r = .error p) : Executes c w r log (.ok s) [] (.error (.json p))
  | posted {s : Session S} {text : String} {request : Http.Request} {answer : Http.Answer}
      (huses : ∀ u ∈ r.uses, u ∈ s.document.capabilities.keys) (htext : toText r = .ok text)
      (hrequest : request = .post s.document.apiUrl "application/json" (Utf8.encode text))
      (hanswer : answer = w log (.http request)) :
      Executes c w r log (.ok s) [⟨.http request, answer⟩] (c.answered answer)

variable {c : Client S} {w : World} {r : Request} {before : Option (Held S)} {log posted : List Exchange}
  {opened : Except Error (Session S)} {result : Except Error (Response S)}

/-! ### The two parts -/

theorem comesBy_currentSession (c : Client S) (w : World) (before : Option (Held S)) (log : List Exchange) :
    let o := c.currentSession.runIn w before log
    ∃ fetched, o.log = log ++ fetched ∧ c.ComesBy w before log (o.result.map (·.session)) fetched := by
  cases before with
  | some h =>
    rw [runIn_currentSession_some]
    exact ⟨[], (List.append_nil log).symm, by simp, by simp, by simp⟩
  | none =>
    rw [runIn_currentSession_none]
    cases hendpoint : c.endpoint with
    | none =>
      rw [runIn_authenticate_none hendpoint]
      exact ⟨[], (List.append_nil log).symm, by simp, by simp, by simp [hendpoint]⟩
    | some url =>
      rw [runIn_authenticate_some hendpoint]
      dsimp only
      cases haccept : c.accept (w log (.http (.get url))) with
      | error e =>
        exact ⟨_, rfl, by simp, by simp [hendpoint], by simp [hendpoint, haccept]⟩
      | ok s =>
        exact ⟨_, rfl, by simp, by simp [hendpoint], by simp [hendpoint, haccept]⟩

theorem received_bind_reply (answer : Http.Answer) :
    (Job.received answer >>= c.reply (.execute r)) = (c.answered answer).map .response := by
  cases answer with
  | error failure => rfl
  | ok response =>
    simp only [Job.received, answered, ok_bind, reply]
    split <;> rfl

/-- In a session that was opened a batch is posted, or else something is amiss with it. -/
theorem executes_rest (h : Held S) (held : Option (Held S)) :
    ∃ posted result, c.Executes w r log (.ok h.session) posted result ∧
      c.rest w (.execute r) h held log = ⟨result.map .response, held, log ++ posted⟩ := by
  unfold rest
  cases hfind : r.uses.find? (!h.session.supports ·) with
  | some u =>
    rw [request?_execute_of_some hfind]
    rw [Session.not_supports] at hfind
    exact ⟨[], _, .unsupported hfind, by rw [List.append_nil]; rfl⟩
  | none =>
    have huses : ∀ u ∈ r.uses, u ∈ h.session.document.capabilities.keys := fun u hu => by
      simpa [Session.supports_iff] using List.find?_eq_none.1 hfind u hu
    cases htext : toText r with
    | error p =>
      have hrequest : (Operation.execute r).request? h.session = .error (.json p) := by
        simp only [Operation.request?, hfind, htext]
        rfl
      rw [hrequest]
      exact ⟨[], _, .unwritten huses htext, by rw [List.append_nil]; rfl⟩
    | ok text =>
      rw [request?_execute_of_none hfind htext]
      exact ⟨_, _, .posted huses htext rfl rfl, by dsimp only; rw [received_bind_reply]⟩

theorem map_response_injective :
    Function.Injective (Except.map Reply.response : Except Error (Response S) → Except Error (Reply S)) := by
  rintro (e | x) (e' | x') h
  · exact congrArg _ (Except.error.inj h)
  · cases h
  · cases h
  · exact congrArg _ (Reply.response.inj (Except.ok.inj h))

/-- To execute a batch a client comes by a session, and does in it what can be done. -/
theorem executes_execute (c : Client S) (w : World) (r : Request) (before : Option (Held S))
    (log : List Exchange) :
    let o := (c.execute r).runIn w before log
    ∃ opened fetched posted, o.log = log ++ fetched ++ posted ∧ c.ComesBy w before log opened fetched ∧
      c.Executes w r (log ++ fetched) opened posted o.result := by
  intro o
  obtain ⟨fetched, hlog, hcomes⟩ := comesBy_currentSession c w before log
  have hjob : (c.job (.execute r)).runIn w before log = _ := runIn_job _
  rw [job, Job.runIn_map, opening_of_ne (by simp)] at hjob
  generalize c.currentSession.runIn w before log = o₁ at hlog hcomes hjob
  obtain ⟨result, held, log'⟩ := o₁
  obtain rfl : log' = log ++ fetched := hlog
  cases result with
  | error e =>
    obtain ⟨hresult, -, hlog⟩ := Job.Outcome.mk.inj hjob
    have hresult : o.result = .error e := map_response_injective hresult
    rw [hresult]
    exact ⟨_, fetched, [], by rw [List.append_nil]; exact hlog, hcomes, .unopened e⟩
  | ok h =>
    obtain ⟨posted, result, hexecutes, hrest⟩ := executes_rest h held
    obtain ⟨hresult, -, hlog⟩ := Job.Outcome.mk.inj (hjob.trans hrest)
    have hresult : o.result = result := map_response_injective hresult
    rw [hresult]
    exact ⟨_, fetched, posted, hlog, hcomes, hexecutes⟩

/-! ### What follows -/

theorem not_forall_of_missing {s : Session S} {u : Uri}
    (hmissing : r.uses.find? (· ∉ s.document.capabilities.keys) = some u) :
    ¬ ∀ v ∈ r.uses, v ∈ s.document.capabilities.keys := fun huses => by
  have hu := List.find?_some hmissing
  simp [huses u (List.mem_of_find?_eq_some hmissing)] at hu

theorem Executes.posted_ne_nil_iff (h : c.Executes w r log opened posted result) :
    posted ≠ [] ↔ ∃ s, opened = .ok s ∧ (∀ u ∈ r.uses, u ∈ s.document.capabilities.keys) ∧
      ∃ text, toText r = .ok text := by
  cases h with
  | unopened e => simp
  | unsupported hmissing => simpa using fun huses => absurd huses (not_forall_of_missing hmissing)
  | unwritten huses htext => simp [htext]
  | posted huses htext => simpa [htext] using huses

theorem Executes.posted_eq (h : c.Executes w r log opened posted result) {s : Session S} {text : String}
    (hopened : opened = .ok s) (htext : toText r = .ok text) (hposted : posted ≠ []) :
    let request := .http (.post s.document.apiUrl "application/json" (Utf8.encode text))
    posted = [⟨request, w log request⟩] := by
  cases h with
  | unopened | unsupported | unwritten => exact absurd rfl hposted
  | posted huses htext' hrequest hanswer =>
    obtain rfl := Except.ok.inj hopened
    obtain rfl := Except.ok.inj (htext.symm.trans htext')
    subst hrequest hanswer
    rfl

theorem Executes.result_of_unopened {e : Error} (h : c.Executes w r log (.error e) posted result) :
    result = .error e := by
  cases h
  rfl

/-- A missing capability comes before a batch that cannot be written. -/
theorem Executes.result_of_unposted (h : c.Executes w r log opened posted result) {s : Session S}
    (hopened : opened = .ok s) :
    (∀ u, r.uses.find? (· ∉ s.document.capabilities.keys) = some u →
      result = .error (.unsupportedCapability u)) ∧
    ((∀ u ∈ r.uses, u ∈ s.document.capabilities.keys) → ∀ p, toText r = .error p →
      result = .error (.json p)) := by
  cases h with
  | unopened e => cases hopened
  | unsupported hmissing =>
    obtain rfl := Except.ok.inj hopened
    refine ⟨fun u hu => ?_, fun huses => absurd huses (not_forall_of_missing hmissing)⟩
    rw [Option.some.inj (hmissing.symm.trans hu)]
  | unwritten huses htext =>
    obtain rfl := Except.ok.inj hopened
    refine ⟨fun u hu => absurd huses (not_forall_of_missing hu), fun _ p hp => ?_⟩
    rw [Except.error.inj (htext.symm.trans hp)]
  | posted huses htext =>
    obtain rfl := Except.ok.inj hopened
    refine ⟨fun u hu => absurd huses (not_forall_of_missing hu), fun _ p hp => ?_⟩
    rw [htext] at hp
    cases hp

theorem Executes.result_of_posted (h : c.Executes w r log opened posted result) {request : Http.Request}
    {answer : Http.Answer} (hposted : posted = [⟨.http request, answer⟩]) : result = c.answered answer := by
  cases h with
  | unopened | unsupported | unwritten => cases hposted
  | posted =>
    cases hposted
    rfl

theorem Executes.exists_posted (h : c.Executes w r log opened posted result) {x : Response S}
    (hresult : result = .ok x) : ∃ request answer, posted = [⟨.http request, answer⟩] := by
  cases h with
  | unopened | unsupported | unwritten => cases hresult
  | posted => exact ⟨_, _, rfl⟩

theorem answered_eq_ok_iff {answer : Http.Answer} {x : Response S} :
    c.answered answer = .ok x ↔ ∃ response, answer = .ok response ∧ response.status = 200 ∧
      Response.ofBytes c.registry.methods response.body = .ok x := by
  cases answer with
  | error failure => simp [answered, Job.received]
  | ok response => by_cases h : response.status = 200 <;> simp [answered, Job.received, Http.Response.isOk, h]

/-- A batch is posted exactly if the client comes by a session (`ComesBy`) that has all capabilities in `uses` and the
batch can be written. It is posted once, and the answer decides. -/
theorem execute_exact (c : Client S) (w : World) (r : Request) (before : Option (Held S))
    (log : List Exchange) :
    let o := (c.execute r).runIn w before log
    ∃ opened fetched posted, o.log = log ++ fetched ++ posted ∧ c.ComesBy w before log opened fetched ∧
      (posted ≠ [] ↔ ∃ s, opened = .ok s ∧ (∀ u ∈ r.uses, u ∈ s.document.capabilities.keys) ∧
        ∃ text, toText r = .ok text) ∧
      ((∃ text, toText r = .ok text) ↔ ∀ id ∈ r.allIds, id.Valid) ∧
      (∀ s text, opened = .ok s → toText r = .ok text → posted ≠ [] →
        let request := .http (.post s.document.apiUrl "application/json" (Utf8.encode text))
        posted = [⟨request, w (log ++ fetched) request⟩]) ∧
      (∀ e, opened = .error e → o.result = .error e) ∧
      (∀ s, opened = .ok s →
        (∀ u, r.uses.find? (· ∉ s.document.capabilities.keys) = some u →
          o.result = .error (.unsupportedCapability u)) ∧
        ((∀ u ∈ r.uses, u ∈ s.document.capabilities.keys) → ∀ p, toText r = .error p →
          o.result = .error (.json p))) ∧
      (∀ request failure, posted = [⟨.http request, .error failure⟩] → o.result = .error (.http failure)) ∧
      (∀ request response, posted = [⟨.http request, .ok response⟩] →
        (response.status = 200 → o.result = Response.ofBytes c.registry.methods response.body) ∧
        (response.status ≠ 200 → (∃ e, o.result = .error (.request e)) ∨
          o.result = .error (.status response.status response.bodyText))) ∧
      ∀ x, o.result = .ok x ↔ ∃ request response, posted = [⟨.http request, .ok response⟩] ∧
        response.status = 200 ∧ Response.ofBytes c.registry.methods response.body = .ok x := by
  intro o
  obtain ⟨opened, fetched, posted, hlog, hcomes, h⟩ := executes_execute c w r before log
  refine ⟨opened, fetched, posted, hlog, hcomes, h.posted_ne_nil_iff, Request.exists_toText_iff,
    fun s text => h.posted_eq, fun e hopened => ?_, fun s => h.result_of_unposted,
    fun request failure hposted => h.result_of_posted hposted, fun request response hposted => ?_, fun x => ?_⟩
  · rw [hopened] at h
    exact h.result_of_unopened
  · have hresult : o.result = if response.isOk then Response.ofBytes c.registry.methods response.body
        else .error response.refusal := h.result_of_posted hposted
    rw [hresult]
    refine ⟨fun h200 => by simp [Http.Response.isOk, h200], fun hne => ?_⟩
    simpa [Http.Response.isOk, hne] using response.refusal_cases
  · constructor
    · intro hresult
      obtain ⟨request, answer, hposted⟩ := h.exists_posted hresult
      have hanswered : c.answered answer = .ok x := (h.result_of_posted hposted).symm.trans hresult
      obtain ⟨response, rfl, h200, hdecoded⟩ := answered_eq_ok_iff.1 hanswered
      exact ⟨request, response, hposted, h200, hdecoded⟩
    · rintro ⟨request, response, hposted, h200, hdecoded⟩
      exact (h.result_of_posted hposted).trans (answered_eq_ok_iff.2 ⟨response, rfl, h200, hdecoded⟩)

/-- A session is fetched, which has the one capability that the batch names. The batch is posted, and its answer is
read. -/
theorem execute_exact_of_posted :
    let body := Utf8.encode
      "\x7b\"capabilities\":\x7b\"x\":1\x7d,\"accounts\":\x7b\x7d,\"primaryAccounts\":\x7b\x7d,\"apiUrl\":\"a\"\x7d"
    let answer := Utf8.encode "\x7b\"methodResponses\":[]\x7d"
    let c : Client Schema.core := ⟨.core, some "e"⟩
    let w := World.scripted [.ok ⟨200, none, body⟩, .ok ⟨200, none, answer⟩]
    let o := (c.execute ⟨[⟨"x"⟩], [], none⟩).runIn w none []
    o.log = [⟨.http (.get "e"), .ok ⟨200, none, body⟩⟩,
        ⟨.http (.post "a" "application/json" (Utf8.encode "\x7b\"using\":[\"x\"],\"methodCalls\":[]\x7d")),
          .ok ⟨200, none, answer⟩⟩] ∧
      o.result = Response.ofBytes c.registry.methods answer ∧ o.result.isOk := by
  intro body answer c w o
  obtain ⟨opened, fetched, posted, hlog, hcomes, hposted, -, hrequest, -, -, -, hanswer, -⟩ :=
    execute_exact c w ⟨[⟨"x"⟩], [], none⟩ none []
  obtain ⟨rfl, rfl⟩ := hcomes.of_endpoint "e" rfl rfl
  have hdocument : (c.accept (.ok ⟨200, none, body⟩)).toOption.map
      (fun s => (s.document.capabilities.keys, s.document.apiUrl)) = some ([⟨"x"⟩], "a") := by
    simp only [body, Utf8.encode_eq_data]
    decide +kernel
  obtain ⟨s, hopened, hdocument⟩ := toOption_map_eq_some_iff.1 hdocument
  obtain ⟨hkeys, hurl⟩ := Prod.mk.inj hdocument
  have hall : ∀ u ∈ [(⟨"x"⟩ : Uri)], u ∈ s.document.capabilities.keys := fun u hu => hkeys ▸ hu
  have hone := hrequest s _ hopened rfl (hposted.2 ⟨s, hopened, hall, _, rfl⟩)
  rw [hurl] at hone
  refine ⟨?_, (hanswer _ ⟨200, none, answer⟩ hone).1 rfl, ?_⟩
  · rw [hlog, hone]
    rfl
  · decide +kernel

end Client

end JmapClient
