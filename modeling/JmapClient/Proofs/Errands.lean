import JmapClient.Command.Errand
import JmapClient.Proofs.Refusals
import JmapClient.Proofs.Transfers

/-!
# Errands that are refused

Of the requests of an errand some fetch a session, and the others are its own: a batch or a blob goes to the server of
the session that was opened (`Job.IsOwn`). Whatever the world answers, an answer that refuses a request of the errand's
own is the last that the errand asks for, and the refusal is what it ends with (`Job.Heeds`). So it depends on this
answer alone how a command ends that is refused (`Errand.refused_exact`).
-/

namespace JmapClient

open Json

variable {S : Schema}

/-! ### Requests of one's own -/

/-- A session that `registry` accepts is fetched in `x`. -/
def Exchange.Opens (registry : CapabilityRegistry S) (x : Exchange) : Prop :=
  ∃ url response session, x = ⟨.http (.get url), .ok response⟩ ∧ response.status = 200 ∧
    Session.ofBytes registry response.body = .ok session

namespace Job

variable {ε α β : Type} {registry : CapabilityRegistry S} {refuses : UInt16 → Prop} {wrap : Error → ε} {w : World}
  {before : Option (Held S)} {log : List Exchange}

/-- After `log` a request does not serve to fetch a session: it posts something, or there is a session. -/
def IsOwn (registry : CapabilityRegistry S) (before : Option (Held S)) (early : List Exchange)
    (request : Http.Request) : Prop :=
  (∃ url contentType body, request = .post url contentType body) ∨ before.isSome ∨ ∃ x ∈ early, x.Opens registry

/-- A job heeds a refusal: what refuses a request of its own (`IsOwn`) is the last answer that it asks for, and it fails
with it. Once there is a session, there stays one. -/
def Heeds (registry : CapabilityRegistry S) (refuses : UInt16 → Prop) (wrap : Error → ε) (w : World)
    (before : Option (Held S)) (log : List Exchange) (j : Job S ε α) : Prop :=
  let o := j.runIn w before log
  ∃ asked, o.log = log ++ asked ∧ (before.isSome ∨ (∃ x ∈ asked, x.Opens registry) → o.held.isSome) ∧
    ∀ early request response late, asked = early ++ ⟨.http request, .ok response⟩ :: late →
      IsOwn registry before early request → refuses response.status →
        late = [] ∧ o.result = .error (wrap response.refusal)

/-! ### The parts of a job -/

theorem eq_of_singleton_eq {γ : Type} {x y : γ} {early late : List γ} (h : [x] = early ++ y :: late) :
    early = [] ∧ x = y ∧ late = [] := by
  cases early with
  | nil => simpa [eq_comm] using h
  | cons z early => simp at h

/-- A job that asks for nothing `Heeds` all refusals. -/
theorem heeds_of_silent {j : Job S ε α} (hlog : (j.runIn w before log).log = log)
    (hheld : before.isSome → (j.runIn w before log).held.isSome) : Heeds registry refuses wrap w before log j := by
  refine ⟨[], by rw [hlog, List.append_nil], ?_, fun early request response late heq => ?_⟩
  · rintro (h | ⟨x, hx, -⟩)
    · exact hheld h
    · cases hx
  · exact absurd heq (by simp)

theorem heeds_ofExcept (x : Except ε α) : Heeds registry refuses wrap w before log (ofExcept x : Job S ε α) := by
  have hrun : (ofExcept x : Job S ε α).runIn w before log = ⟨x, before, log⟩ := runIn_ofExcept x
  exact heeds_of_silent (by rw [hrun]) (by rw [hrun]; exact id)

theorem heeds_pure (a : α) : Heeds registry refuses wrap w before log (pure a : Job S ε α) :=
  heeds_ofExcept (.ok a)

theorem heeds_throw (e : ε) : Heeds registry refuses wrap w before log (throw e : Job S ε α) :=
  heeds_ofExcept (.error e)

theorem heeds_ask {e : Effect} (h : ∀ r, e ≠ .http r) :
    Heeds registry refuses wrap w before log (ask e : Job S ε _) := by
  refine ⟨[⟨e, w log e⟩], rfl, ?_, fun early request response late heq => ?_⟩
  · rintro (hbefore | ⟨x, hx, url, response, session, rfl, -⟩)
    · exact hbefore
    · rw [List.mem_singleton] at hx
      exact absurd (congrArg Exchange.effect hx).symm (h _)
  · obtain ⟨-, hx, -⟩ := eq_of_singleton_eq heq
    exact absurd (congrArg Exchange.effect hx) (h _)

/-- A job `Heeds` refusals if its two parts do. -/
theorem Heeds.bind {j : Job S ε α} {f : α → Job S ε β} (hj : Heeds registry refuses wrap w before log j)
    (hf : ∀ a held log', j.runIn w before log = ⟨.ok a, held, log'⟩ →
      Heeds registry refuses wrap w held log' (f a)) :
    Heeds registry refuses wrap w before log (j >>= f) := by
  obtain ⟨asked, hlog, hstays, hrefused⟩ := hj
  unfold Heeds
  rw [runIn_bind]
  cases ho : j.runIn w before log with
  | mk result held log' =>
    rw [ho] at hlog hstays hrefused
    obtain rfl : log' = log ++ asked := hlog
    cases result with
    | error e =>
      refine ⟨asked, rfl, hstays, fun early request response late heq hown hrefuses => ?_⟩
      obtain ⟨hlate, hresult⟩ := hrefused early request response late heq hown hrefuses
      exact ⟨hlate, congrArg Except.error (Except.error.inj hresult)⟩
    | ok a =>
      obtain ⟨more, hmore, hstays', hrefused'⟩ := hf a held _ ho
      have hopen {early : List Exchange} (h : before.isSome ∨ ∃ x ∈ asked ++ early, x.Opens registry) :
          held.isSome ∨ ∃ x ∈ early, x.Opens registry := by
        rcases h with h | ⟨x, hx, hopens⟩
        · exact Or.inl (hstays (Or.inl h))
        · rcases List.mem_append.1 hx with hx | hx
          · exact Or.inl (hstays (Or.inr ⟨x, hx, hopens⟩))
          · exact Or.inr ⟨x, hx, hopens⟩
      refine ⟨asked ++ more, by rw [← List.append_assoc]; exact hmore, fun h => hstays' (hopen h),
        fun early request response late heq hown hrefuses => ?_⟩
      rcases List.append_eq_append_iff.1 heq with ⟨rest, rfl, hrest⟩ | ⟨rest, hasked, hrest⟩
      · -- The refusal is in the second part, before which there are all exchanges of the first.
        exact hrefused' rest request response late hrest (hown.imp_right hopen) hrefuses
      · cases rest with
        | nil =>
          rw [List.append_nil] at hasked
          subst hasked
          refine hrefused' [] request response late hrest.symm (hown.imp_right fun h => hopen ?_) hrefuses
          rwa [List.append_nil]
        | cons x rest =>
          -- The first part did not fail, so there is no refusal in it.
          obtain ⟨rfl, -⟩ := List.cons.inj hrest
          have hresult := (hrefused early request response rest hasked hown hrefuses).2
          cases hresult

/-- What was made out of nothing that was asked for may be used in a job. -/
theorem heeds_ofExcept_bind {x : Except ε β} {f : β → Job S ε α}
    (hf : ∀ b, x = .ok b → Heeds registry refuses wrap w before log (f b)) :
    Heeds registry refuses wrap w before log (ofExcept x >>= f) := by
  refine (heeds_ofExcept x).bind fun b held log' hrun => ?_
  rw [runIn_ofExcept] at hrun
  obtain ⟨hx, rfl, rfl⟩ := Outcome.mk.inj hrun
  exact hf b hx

/-- What a job of two parts ends with was made by the second of what the first ended with. -/
theorem exists_of_runIn_bind {j : Job S ε α} {f : α → Job S ε β} {b : β}
    (h : ((j >>= f).runIn w before log).result = .ok b) :
    ∃ a held log', j.runIn w before log = ⟨.ok a, held, log'⟩ ∧ ((f a).runIn w held log').result = .ok b := by
  rw [runIn_bind] at h
  cases ho : j.runIn w before log with
  | mk result held log' =>
    rw [ho] at h
    cases result with
    | error e => cases h
    | ok a => exact ⟨a, held, log', rfl, h⟩

/-- An `Error` may be taken to be a `Failure`. -/
theorem Heeds.adapt {j : Job S Error α} (h : Heeds registry refuses id w before log j) :
    Heeds registry refuses Failure.client w before log (ExceptT.adapt Failure.client j) := by
  obtain ⟨asked, hlog, hstays, hrefused⟩ := h
  unfold Heeds
  rw [runIn_adapt]
  refine ⟨asked, hlog, hstays, fun early request response late heq hown hrefuses => ?_⟩
  obtain ⟨hlate, hresult⟩ := hrefused early request response late heq hown hrefuses
  refine ⟨hlate, ?_⟩
  dsimp only
  rw [hresult]
  rfl

/-- A request is sent in a session that was opened, and an answer that `refuses` it is an error. -/
theorem heeds_send (hbefore : before.isSome) (r : Http.Request) {good : Http.Response → Bool}
    (hgood : ∀ response, refuses response.status → good response = false) (next : Http.Response → Except Error α) :
    Heeds registry refuses id w before log
      (send r >>= fun response => if good response then ofExcept (next response) else throw response.refusal) := by
  unfold Heeds
  rw [runIn_bind, runIn_send]
  cases hanswer : w log (.http r) with
  | error failure =>
    refine ⟨_, rfl, fun _ => hbefore, fun early request response late heq => ?_⟩
    obtain ⟨-, hx, -⟩ := eq_of_singleton_eq heq
    cases hx
  | ok response =>
    have hrun : (if good response then ofExcept (next response) else throw response.refusal : Job S Error α) =
        ofExcept (if good response then next response else .error response.refusal) := by
      cases good response <;> rfl
    dsimp only [received]
    rw [hrun, runIn_ofExcept]
    refine ⟨_, rfl, fun _ => hbefore, fun early request response' late heq _ hrefuses => ?_⟩
    obtain ⟨-, hx, hlate⟩ := eq_of_singleton_eq heq
    cases hx
    exact ⟨hlate, by rw [hgood _ hrefuses]; rfl⟩

end Job

/-! ### The client -/

namespace Client

open Job

variable {c : Client S} {refuses : UInt16 → Prop} {w : World} {before : Option (Held S)} {log : List Exchange}

theorem accept_of_opens {request : Http.Request} {answer : Http.Answer}
    (h : Exchange.Opens c.registry.capabilities ⟨.http request, answer⟩) :
    ∃ session, c.accept answer = .ok session := by
  obtain ⟨url, response, session, hx, hstatus, hsession⟩ := h
  cases hx
  exact ⟨session, by simp [accept, Http.Response.isOk, hstatus, hsession]⟩

/-- A client without a session fetches one with nothing but requests that are not its own. -/
theorem fetches_authenticate (c : Client S) (w : World) (log : List Exchange) :
    let o := c.authenticate.runIn w none log
    ∃ asked, o.log = log ++ asked ∧
      ((∃ x ∈ asked, x.Opens c.registry.capabilities) → o.held.isSome) ∧
      (∀ e, o.result = .error e → o.held = none) ∧
      ∀ early request answer late, asked = early ++ ⟨.http request, answer⟩ :: late →
        ¬ IsOwn c.registry.capabilities (none : Option (Held S)) early request := by
  have hfetch : Operation.authenticate = .authenticate ∨ (none : Option (Held S)) = none := Or.inl rfl
  obtain ⟨asked, hlog, hopens⟩ := opens_authenticate c w log hfetch
  have hown {url : String} {answer' : Http.Answer} : ∀ early request answer late,
      [(⟨.http (.get url), answer'⟩ : Exchange)] = early ++ ⟨.http request, answer⟩ :: late →
        ¬ IsOwn c.registry.capabilities (none : Option (Held S)) early request := by
    intro early request answer late heq
    obtain ⟨rfl, hx, -⟩ := eq_of_singleton_eq heq
    cases hx
    simp [IsOwn]
  generalize c.authenticate.runIn w none log = o at hlog hopens ⊢
  obtain ⟨opened, held, log'⟩ := o
  refine ⟨asked, hlog, ?_⟩
  cases hopens with
  | nowhere _ hendpoint => exact ⟨by simp, fun _ _ => rfl, by simp⟩
  | refused _ hendpoint haccept =>
    refine ⟨?_, fun _ _ => rfl, hown⟩
    rintro ⟨x, hx, hopens⟩
    rw [List.mem_singleton.1 hx] at hopens
    obtain ⟨session, hsession⟩ := accept_of_opens hopens
    rw [haccept] at hsession
    cases hsession
  | accepted _ hendpoint haccept => exact ⟨fun _ => rfl, by simp, hown⟩

theorem heeds_currentSession (c : Client S) :
    Heeds c.registry.capabilities refuses id w before log c.currentSession := by
  cases before with
  | some h =>
    have hrun : c.currentSession.runIn w (some h) log = ⟨.ok h, some h, log⟩ := runIn_currentSession_some h
    exact heeds_of_silent (by rw [hrun]) (by rw [hrun]; exact id)
  | none =>
    unfold Heeds
    rw [runIn_currentSession_none]
    obtain ⟨asked, hlog, hopens, -, hown⟩ := fetches_authenticate c w log
    refine ⟨asked, hlog, fun h => hopens (h.resolve_left (by simp)), fun early request response late heq h => ?_⟩
    exact absurd h (hown early request _ late heq)

/-- There is a session after a client came by one. -/
theorem isSome_of_currentSession {h : Held S} {held : Option (Held S)} {log' : List Exchange}
    (hrun : c.currentSession.runIn w before log = ⟨.ok h, held, log'⟩) : held.isSome := by
  have hheld := (held_currentSession c w before log).2 h
  rw [hrun] at hheld
  exact Option.isSome_iff_exists.2 ⟨h, hheld rfl⟩

theorem heeds_execute (c : Client S) (r : Request) (h : ∀ status, refuses status → status ≠ 200) :
    Heeds c.registry.capabilities refuses id w before log (c.execute r) := by
  have hgood (response : Http.Response) (hrefuses : refuses response.status) : response.isOk = false := by
    simpa [Http.Response.isOk] using h _ hrefuses
  refine (heeds_currentSession c).bind fun held after log' hrun => ?_
  dsimp only
  cases r.uses.find? (!held.session.supports ·) with
  | some uri => exact heeds_throw _
  | none => exact heeds_ofExcept_bind fun text _ => heeds_send (isSome_of_currentSession hrun) _ hgood _

theorem isSuccess_eq_false {response : Http.Response} (h : ¬ (200 ≤ response.status ∧ response.status < 300)) :
    response.isSuccess = false := by
  simpa [Http.Response.isSuccess] using h

theorem heeds_upload (c : Client S) (accountId mediaType : String) (content : Bytes)
    (h : ∀ status, refuses status → ¬ (200 ≤ status ∧ status < 300)) :
    Heeds c.registry.capabilities refuses id w before log (c.upload accountId mediaType content) := by
  refine (heeds_currentSession c).bind fun held after log' hrun => heeds_ofExcept_bind fun url _ => ?_
  exact heeds_send (isSome_of_currentSession hrun) _ (fun _ hrefuses => isSuccess_eq_false (h _ hrefuses)) _

theorem heeds_download (c : Client S) (accountId blobId mediaType name : String)
    (h : ∀ status, refuses status → ¬ (200 ≤ status ∧ status < 300)) :
    Heeds c.registry.capabilities refuses id w before log (c.download accountId blobId mediaType name) := by
  refine (heeds_currentSession c).bind fun held after log' hrun => heeds_ofExcept_bind fun url _ => ?_
  exact heeds_send (isSome_of_currentSession hrun) _ (fun _ hrefuses => isSuccess_eq_false (h _ hrefuses)) (.ok ·.body)

theorem heeds_showEcho (c : Client S) (texts : List String) (h : ∀ status, refuses status → status ≠ 200) :
    Heeds c.registry.capabilities refuses Failure.client w before log (c.showEcho texts) := by
  refine heeds_ofExcept_bind fun e _ => Heeds.adapt (heeds_ofExcept_bind fun call _ => ?_)
  refine (heeds_execute c _ h).bind fun response held log' _ => heeds_ofExcept_bind fun taken _ => ?_
  exact heeds_pure _

theorem heeds_showUpload (c : Client S) (types : MediaTypes) (u : Upload)
    (h : ∀ status, refuses status → ¬ (200 ≤ status ∧ status < 300)) :
    Heeds c.registry.capabilities refuses Failure.client w before log (c.showUpload types u) := by
  refine Heeds.bind ?_ fun _ _ _ _ => heeds_pure _
  refine (heeds_currentSession c).adapt.bind fun held _ _ _ => heeds_ofExcept_bind fun accountId _ => ?_
  refine (heeds_ask (by simp)).bind fun file _ _ _ => heeds_ofExcept_bind fun content _ => ?_
  refine heeds_ofExcept_bind fun _ _ => (heeds_upload c _ _ _ h).adapt.bind fun blob _ _ _ => ?_
  cases toValue blob with
  | error problem => exact heeds_throw _
  | ok v => exact heeds_pure _

theorem heeds_showDownload (c : Client S) (d : Download)
    (h : ∀ status, refuses status → ¬ (200 ≤ status ∧ status < 300)) :
    Heeds c.registry.capabilities refuses Failure.client w before log (c.showDownload d) := by
  refine (heeds_ask (by simp)).bind fun isPresent _ _ _ => ?_
  dsimp only
  split
  · exact (heeds_throw _).bind fun _ _ _ hrun => by cases hrun
  · refine (heeds_currentSession c).adapt.bind fun held _ _ _ => heeds_ofExcept_bind fun accountId _ => ?_
    refine (heeds_download c _ _ _ _ h).adapt.bind fun content _ _ _ => ?_
    refine (heeds_ask (by simp)).bind fun fault _ _ _ => heeds_ofExcept_bind fun _ _ => ?_
    exact heeds_pure _

theorem heeds_showSession (c : Client S) :
    Heeds c.registry.capabilities refuses Failure.client w before log c.showSession := by
  refine (heeds_currentSession c).adapt.bind fun held _ _ _ => ?_
  cases held.session.overview with
  | error problem => exact heeds_throw _
  | ok v => exact heeds_pure _

/-- What comes of an attempt to fetch a session may be looked at, be it an error or not. -/
theorem runIn_attempt {ε ε' α : Type} (j : Job S ε α) :
    runIn w (ExceptT.lift (ExceptT.run j) : Job S ε' (Except ε α)) before log =
      ⟨.ok (j.runIn w before log).result, (j.runIn w before log).held, (j.runIn w before log).log⟩ := by
  have hlift : (ExceptT.lift (ExceptT.run j) : Job S ε' (Except ε α)) =
      Task.bind j fun result => .done (.ok result) := rfl
  unfold runIn
  rw [hlift, Task.perform_bind]
  rfl

/-- Of the servers of a domain nothing is asked but for a session, until one gives it. -/
theorem heeds_firstOf (registry : Registry S) (last : Error) (urls : List String) :
    Heeds registry.capabilities refuses id w none log (firstOf registry last urls) := by
  induction urls generalizing last log with
  | nil => exact heeds_throw _
  | cons url urls ih =>
    let client : Client S := ⟨registry, some url⟩
    obtain ⟨asked, hlog, hopens, hnone, hown⟩ := fetches_authenticate client w log
    have hattempt : Heeds registry.capabilities refuses id w none log
        (ExceptT.lift (ExceptT.run client.authenticate) : Job S Error _) := by
      unfold Heeds
      rw [runIn_attempt]
      refine ⟨asked, hlog, fun h => hopens (h.resolve_left (by simp)), fun early request response late heq h => ?_⟩
      exact absurd h (hown early request _ late heq)
    -- After an attempt that failed there is no session yet, so the next one is not a request of one's own either.
    refine hattempt.bind fun result held log' hrun => ?_
    rw [runIn_attempt] at hrun
    obtain ⟨hresult, rfl, -⟩ := Outcome.mk.inj hrun
    cases result with
    | ok _ => exact heeds_pure _
    | error e =>
      rw [hnone e (Except.ok.inj hresult)]
      exact ih e

theorem runIn_endpoints (domain : String) :
    ∃ urls, (endpoints domain : Job S Error _).runIn w before log =
      ⟨urls, before, log ++ [⟨.lookUp domain, w log (.lookUp domain)⟩]⟩ := by
  rw [endpoints, runIn_ask_bind]
  cases w log (.lookUp domain) with
  | ok records => exact ⟨_, runIn_ofExcept _⟩
  | error reason => exact ⟨_, runIn_throw _⟩

theorem heeds_discover (registry : Registry S) (domain : String) :
    Heeds registry.capabilities refuses id w none log (discover registry domain) := by
  have hheeds : Heeds registry.capabilities refuses id w none log (endpoints domain : Job S Error _) := by
    refine (heeds_ask (by simp)).bind fun records _ _ _ => ?_
    cases records with
    | ok records => exact heeds_ofExcept _
    | error reason => exact heeds_throw _
  refine hheeds.bind fun urls held log' hrun => ?_
  obtain ⟨urls', hendpoints⟩ := runIn_endpoints (S := S) domain
  rw [hendpoints] at hrun
  obtain ⟨-, rfl, -⟩ := Outcome.mk.inj hrun
  exact heeds_firstOf registry _ urls

/-- A client of a server that was found for a domain has the `registry` that it was to have. -/
theorem registry_firstOf {registry : Registry S} {last : Error} {urls : List String}
    (h : ((firstOf registry last urls).runIn w before log).result = .ok c) : c.registry = registry := by
  induction urls generalizing last before log with
  | nil => cases h
  | cons url urls ih =>
    obtain ⟨result, held, log', -, h⟩ := exists_of_runIn_bind h
    cases result with
    | ok _ =>
      cases h
      rfl
    | error e => exact ih h

end Client

theorem Settings.Target.heeds_client (registry : Registry S) (target : Target) (refuses : UInt16 → Prop) (w : World)
    (log : List Exchange) :
    Job.Heeds registry.capabilities refuses Failure.client w none log (target.client registry) := by
  cases target with
  | url text => exact Job.heeds_pure _
  | domain name => exact (Client.heeds_discover registry name).adapt

theorem Settings.Target.registry_client {registry : Registry S} {target : Target} {w : World}
    {before : Option (Held S)} {log : List Exchange} {c : Client S}
    (h : ((target.client registry).runIn w before log).result = .ok c) : c.registry = registry := by
  cases target with
  | url text =>
    cases h
    rfl
  | domain name =>
    have hadapt : (Settings.Target.domain name).client registry =
        ExceptT.adapt Failure.client (Client.discover registry name) := rfl
    rw [hadapt, Job.runIn_adapt] at h
    cases hresult : ((Client.discover registry name).runIn w before log).result with
    | error e => simp [hresult, Except.mapError] at h
    | ok c' =>
      rw [hresult] at h
      cases h
      obtain ⟨urls, held, log', -, h⟩ := Job.exists_of_runIn_bind hresult
      exact Client.registry_firstOf h

/-! ### Errands -/

namespace Errand

open Job

/-- A status refuses what an errand asks for: to have something echoed takes status `200`, and to transfer a blob any
status of success. A session is shown without a request of its own. -/
def Refuses : Errand → UInt16 → Prop
  | .showSession, _ => False
  | .echo _, status => status ≠ 200
  | .upload _, status | .download _, status => ¬ (200 ≤ status ∧ status < 300)

theorem heeds_job (c : Client S) (types : MediaTypes) (e : Errand) (w : World) (before : Option (Held S)) (log : List Exchange) :
    Heeds c.registry.capabilities e.Refuses Failure.client w before log (e.job types c) := by
  cases e with
  | showSession => exact c.heeds_showSession
  | echo texts => exact c.heeds_showEcho texts fun _ h => h
  | upload u => exact c.heeds_showUpload types u fun _ h => h
  | download d => exact c.heeds_showDownload d fun _ h => h

theorem heeds_plan {registry : Registry S} {types : MediaTypes} {settings : Settings} {sessionUrl : Option String}
    {e : Errand} {p : Plan S} (h : e.plan registry types settings sessionUrl = .ok p) (w : World) :
    Heeds registry.capabilities e.Refuses Failure.client w none [] p.job := by
  obtain ⟨⟨credentials, target⟩, -, hp⟩ := bind_eq_ok_iff.1 h
  obtain rfl := Except.ok.inj hp
  refine (target.heeds_client registry e.Refuses w []).bind fun c held log' hrun => ?_
  have hregistry : c.registry = registry := Settings.Target.registry_client (congrArg Job.Outcome.result hrun)
  rw [← hregistry]
  exact heeds_job c types e w held log'

/-- Where an answer `Refuses` a request of the errand's own, the command ends there: with number 1 and for another try if
the trouble is `Passing`, and with number 2 and for good if it is not. -/
theorem refused_exact {registry : Registry S} {types : MediaTypes} {settings : Settings} {sessionUrl : Option String}
    {e : Errand} {p : Plan S} (hplan : e.plan registry types settings sessionUrl = .ok p) (w : World) {early late : List Exchange}
    {request : Http.Request} {response : Http.Response}
    (hlog : (p.job.runIn w none []).log = early ++ ⟨.http request, .ok response⟩ :: late)
    (hown : IsOwn registry.capabilities (none : Option (Held S)) early request) (hrefuses : e.Refuses response.status) :
    let o := JmapClient.Outcome.of (p.job.runIn w none []).result
    late = [] ∧ (response.Passing → o.Fails 1 true) ∧ (¬ response.Passing → o.Fails 2 false) := by
  obtain ⟨asked, hasked, -, hrefused⟩ := heeds_plan hplan w
  rw [hlog] at hasked
  obtain ⟨hlate, hresult⟩ := hrefused early request response late hasked.symm hown hrefuses
  rw [hresult]
  exact ⟨hlate, Outcome.fails_of_refusal response⟩

/-- A batch is refused with status 400, but the problem that is described has status 503. -/
theorem refused_exact_of_echo :
    let types : MediaTypes := fun _ => none
    let settings : Settings := { (∅ : Settings) with sessionUrl := some "e", token := some "t" }
    let body := Utf8.encode <| "\x7b\"capabilities\":\x7b\"urn:ietf:params:jmap:core\":\x7b\x7d\x7d," ++
      "\"accounts\":\x7b\x7d,\"primaryAccounts\":\x7b\x7d,\"apiUrl\":\"a\"\x7d"
    let response : Http.Response := ⟨400, some " Application/Problem+JSON ;charset=utf-8",
      Utf8.encode "\x7b\"type\":\"t\",\"status\":503\x7d"⟩
    let w := World.scripted [.ok ⟨200, none, body⟩, .ok response]
    ∃ p : Plan Schema.core, (Errand.echo []).plan .core types settings none = .ok p ∧
      (JmapClient.Outcome.of (p.job.runIn w none []).result).Fails 1 true := by
  intro types settings body response w
  let p : Plan Schema.core :=
    ⟨.token "t", (Settings.Target.url "e").client .core >>= fun c => (Errand.echo []).job types c⟩
  have hplan : (Errand.echo []).plan .core types settings none = .ok p := rfl
  let batch := Utf8.encode <| "\x7b\"using\":[\"urn:ietf:params:jmap:core\"]," ++
    "\"methodCalls\":[[\"Core/echo\",\x7b\x7d,\"0\"]]\x7d"
  have hlog : (p.job.runIn w none []).log = [⟨.http (.get "e"), .ok ⟨200, none, body⟩⟩] ++
      ⟨.http (.post "a" "application/json" batch), .ok response⟩ :: [] := by
    simp only [w, body, response, batch, Utf8.encode_eq_data]
    decide +kernel
  have hown : IsOwn Registry.core.capabilities (none : Option (Held Schema.core)) [⟨.http (.get "e"),
      .ok ⟨200, none, body⟩⟩] (.post "a" "application/json" batch) := Or.inl ⟨_, _, _, rfl⟩
  have hdocument : (readText response.body : Except Problem RequestError).toOption = some ⟨"t", 503, "", none⟩ := by
    simp only [response, Utf8.encode_eq_data]
    decide +kernel
  have hread : readText response.body = .ok (⟨"t", 503, "", none⟩ : RequestError) :=
    toOption_eq_some_iff.1 hdocument
  have hpassing : response.Passing :=
    Or.inl ⟨⟨"t", 503, "", none⟩, ⟨Http.Response.isJson_iff.1 (by decide +kernel), hread⟩, by decide, by decide⟩
  have hrefuses : (Errand.echo []).Refuses response.status := by
    unfold Refuses
    decide
  exact ⟨p, hplan, (refused_exact hplan w hlog hown hrefuses).2.1 hpassing⟩

end Errand

end JmapClient
