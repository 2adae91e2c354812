import JmapClient.Proofs.World

/-!
# Operations of a client

What a client can be told to do are `Client.Operation`s. All have one form (`Client.job_eq`): the client
opens a session, that is, fetches one or takes the one it holds, and acts in it (`Client.action`). From the
session the operation makes the request that it sends, if it sends one (`Operation.request?`), and the result
is read from the answer (`Client.reply`).
-/

namespace JmapClient

open Json

variable {S : Schema}

namespace Client

/-- What a client can be told to do. -/
inductive Operation
  | authenticate
  | currentSession
  | execute (r : Request)
  | upload (accountId mediaType : String) (content : Bytes)
  | download (accountId blobId mediaType name : String)

/-- The result of an operation. -/
inductive Reply (S : Schema)
  | session (h : Held S)
  | response (r : Response S)
  | uploaded (u : UploadResponse)
  | content (body : Bytes)

/-- What a client does when it is told to. -/
def job (c : Client S) : Operation → Job S Error (Reply S)
  | .authenticate => Reply.session <$> c.authenticate
  | .currentSession => Reply.session <$> c.currentSession
  | .execute r => Reply.response <$> c.execute r
  | .upload accountId mediaType content => Reply.uploaded <$> c.upload accountId mediaType content
  | .download accountId blobId mediaType name =>
    Reply.content <$> c.download accountId blobId mediaType name

/-- What every operation begins with. -/
def opening (c : Client S) : Operation → Job S Error (Held S)
  | .authenticate => c.authenticate
  | .currentSession | .execute _ | .upload _ _ _ | .download _ _ _ _ => c.currentSession

/-- The request that an operation makes in `session`, if it makes one. -/
def Operation.request? (session : Session S) : Operation → Except Error (Option Http.Request)
  | .authenticate => .ok none
  | .currentSession => .ok none
  | .execute r =>
    match r.uses.find? (!session.supports ·) with
    | some uri => .error (.unsupportedCapability uri)
    | none => (Error.ofProblem (toText r)).map fun text =>
        some (.post session.document.apiUrl Http.jsonType (Utf8.encode text))
  | .upload accountId mediaType content =>
    (Error.ofAttempt (session.uploadUrlFor accountId)).map fun url => some (.post url mediaType content)
  | .download accountId blobId mediaType name =>
    (Error.ofAttempt (session.downloadUrlFor accountId blobId mediaType name)).map fun url => some (.get url)

/-- The result that is read from the answer `r` to the request of `op`. -/
def reply (c : Client S) (op : Operation) (r : Http.Response) : Except Error (Reply S) :=
  match op with
  | .execute _ =>
    if r.isOk then (Response.ofBytes c.registry.methods r.body).map .response else .error r.refusal
  | .upload _ _ _ =>
    if r.isSuccess then (Error.ofProblem (readText r.body)).map .uploaded else .error r.refusal
  | _ => if r.isSuccess then .ok (.content r.body) else .error r.refusal

/-- The session that is accepted from the answer to a fetch. -/
def accept (c : Client S) : Http.Answer → Except Error (Session S)
  | .ok r =>
    if r.isOk then Session.ofBytes c.registry.capabilities r.body else .error (.authentication r.status)
  | .error failure => .error (.http failure)

/-! ### The two parts of an operation -/

/-- What `op` does in a session that was opened. -/
def action (c : Client S) (op : Operation) (h : Held S) : Job S Error (Reply S) :=
  match op.request? h.session with
  | .error e => throw e
  | .ok none => return .session h
  | .ok (some r) => do
    let response ← Job.send r
    ofExcept (c.reply op response)

theorem map_ofExcept {α β : Type} (f : α → β) (x : Except Error α) :
    (f <$> ofExcept x : Job S Error β) = ofExcept (x.map f) := by
  cases x <;> rfl

/-- An operation that makes a request out of what it finds in the session, and reads the answer. -/
theorem map_request {α β : Type} (g : α → Reply S) (x : Except Error β) (make : β → Http.Request)
    (good : Http.Response → Bool) (read : Http.Response → Except Error α) (bad : Http.Response → Error) :
    (g <$> (ofExcept x >>= fun b => Job.send (make b) >>= fun response =>
        if good response then ofExcept (read response) else throw (bad response)) :
        Job S Error (Reply S)) =
      match x.map make with
      | .error e => throw e
      | .ok r => Job.send r >>= fun response =>
          ofExcept (if good response then (read response).map g else .error (bad response)) := by
  cases x with
  | error e => rfl
  | ok b =>
    show g <$> (Job.send (make b) >>= _) = Job.send (make b) >>= _
    rw [map_bind]
    refine congrArg (Job.send (make b) >>= ·) (funext fun response => ?_)
    cases good response with
    | true => exact map_ofExcept g (read response)
    | false => rfl

/-- Every operation opens a session (`opening`) and acts in it (`action`). -/
theorem job_eq (c : Client S) (op : Operation) : c.job op = c.opening op >>= c.action op := by
  cases op with
  | authenticate => exact map_eq_pure_bind _ _
  | currentSession => exact map_eq_pure_bind _ _
  | execute r =>
    rw [job, execute, map_bind]
    refine congrArg (c.currentSession >>= ·) (funext fun h => ?_)
    dsimp only [action, Operation.request?]
    cases r.uses.find? (!h.session.supports ·) with
    | some uri => rfl
    | none =>
      dsimp only
      rw [map_request]
      cases Error.ofProblem (toText r) <;> rfl
  | upload accountId mediaType content =>
    rw [job, upload, map_bind]
    refine congrArg (c.currentSession >>= ·) (funext fun h => ?_)
    dsimp only [action, Operation.request?]
    rw [map_request]
    cases Error.ofAttempt (h.session.uploadUrlFor accountId) <;> rfl
  | download accountId blobId mediaType name =>
    rw [job, download, map_bind]
    refine congrArg (c.currentSession >>= ·) (funext fun h => ?_)
    simp only [action, Operation.request?, Job.pure_eq_ofExcept]
    rw [map_request]
    cases Error.ofAttempt (h.session.downloadUrlFor accountId blobId mediaType name) <;> rfl

/-! ### Opening a session -/

theorem opening_of_ne {c : Client S} {op : Operation} (h : op ≠ .authenticate) :
    c.opening op = c.currentSession := by
  cases op with
  | authenticate => exact absurd rfl h
  | currentSession | execute | upload | download => rfl

/-- Holds the session that is accepted from the `answer` to a fetch. -/
def receive (c : Client S) (answer : Http.Answer) : Job S Error (Held S) := do
  let session ← ofExcept (c.accept answer)
  Job.hold session

section Opening

variable {c : Client S} {w : World} {before : Option (Held S)} {log : List Exchange}

/-- A fetch asks for the session and does with the answer what `receive` does. -/
theorem authenticate_eq {url : String} (h : c.endpoint = some url) :
    c.authenticate = Job.ask (.http (.get url)) >>= c.receive := by
  rw [authenticate, h]
  dsimp only
  rw [Job.send_eq, bind_assoc]
  refine congrArg (Job.ask (.http (.get url)) >>= ·) (funext fun answer => ?_)
  cases answer with
  | error failure => rfl
  | ok response =>
    show (if response.isOk then _ else _ : Job S Error (Held S)) =
      ofExcept (if response.isOk then _ else _) >>= _
    cases response.isOk <;> rfl

theorem runIn_authenticate_none (h : c.endpoint = none) :
    c.authenticate.runIn w before log = ⟨.error .noSessionEndpoint, before, log⟩ := by
  rw [authenticate, h]
  exact Job.runIn_throw _

/-- A fetch asks for the session and holds what is accepted of the answer. -/
theorem runIn_authenticate_some {url : String} (h : c.endpoint = some url) :
    c.authenticate.runIn w before log =
      let answer := w log (.http (.get url))
      let log := log ++ [⟨.http (.get url), answer⟩]
      match c.accept answer with
      | .ok session =>
        let next : Held S := ⟨before.elim 0 (·.number + 1), session⟩
        ⟨.ok next, some next, log⟩
      | .error e => ⟨.error e, before, log⟩ := by
  rw [authenticate_eq h, Job.runIn_bind]
  show (c.receive (w log (.http (.get url)))).runIn w before (log ++ [⟨_, w log (.http (.get url))⟩]) = _
  rw [receive, Job.runIn_bind, Job.runIn_ofExcept]
  dsimp only
  cases c.accept (w log (.http (.get url))) with
  | error e => rfl
  | ok session => exact Job.runIn_hold session

theorem runIn_currentSession_some (h : Held S) :
    c.currentSession.runIn w (some h) log = ⟨.ok h, some h, log⟩ := by
  rw [currentSession, Job.runIn_bind, Job.runIn_held]
  exact Job.runIn_pure h

theorem runIn_currentSession_none :
    c.currentSession.runIn w none log = c.authenticate.runIn w none log := by
  rw [currentSession, Job.runIn_bind, Job.runIn_held]

end Opening

/-! ### The rest -/

section Rest

variable {c : Client S} {w : World} {before : Option (Held S)} {log : List Exchange}

/-- What becomes of an operation in a session that was opened. -/
def rest (c : Client S) (w : World) (op : Operation) (h : Held S) (held : Option (Held S))
    (log : List Exchange) : Job.Outcome S Error (Reply S) :=
  match op.request? h.session with
  | .error e => ⟨.error e, held, log⟩
  | .ok none => ⟨.ok (.session h), held, log⟩
  | .ok (some r) =>
    ⟨Job.received (w log (.http r)) >>= c.reply op, held, log ++ [⟨.http r, w log (.http r)⟩]⟩

theorem runIn_action (op : Operation) (h : Held S) :
    (c.action op h).runIn w before log = c.rest w op h before log := by
  unfold action rest
  cases op.request? h.session with
  | error e => exact Job.runIn_throw e
  | ok r? =>
    cases r? with
    | none => exact Job.runIn_pure _
    | some r =>
      dsimp only
      rw [Job.runIn_bind, Job.runIn_send]
      cases w log (.http r) with
      | error failure => rfl
      | ok response =>
        simp only [Job.received, ok_bind]
        exact Job.runIn_ofExcept _

/-- Every operation opens a session, sends at most one request in it and reads the answer. -/
theorem runIn_job (op : Operation) :
    (c.job op).runIn w before log =
      match (c.opening op).runIn w before log with
      | ⟨.ok h, held, log⟩ => c.rest w op h held log
      | ⟨.error e, held, log⟩ => ⟨.error e, held, log⟩ := by
  rw [job_eq, Job.runIn_bind]
  obtain ⟨result, held, log'⟩ := (c.opening op).runIn w before log
  cases result with
  | error e => rfl
  | ok h => exact runIn_action op h

end Rest

end Client

end JmapClient
