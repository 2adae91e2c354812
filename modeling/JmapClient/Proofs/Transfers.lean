import JmapClient.Proofs.Executing
import JmapClient.Proofs.Templates

/-!
# Transfers of blobs

A blob is uploaded or downloaded by a single request (`Transfer`), whose URL is made of a template of the session. First
the client comes by a session as it does to execute a batch, and then every identifier that is to be a part of the URL
is checked: what is sent has valid identifiers in it (`Client.Transfers`). That is all that the world is asked, and
whatever comes of it, a session that the client holds stays the one that it holds (`Client.transfer_exact`).
-/

namespace JmapClient

open Json Client

variable {S : Schema} {α : Type}

/-- An upload or a download, by what it results in. -/
inductive Transfer : Type → Type
  | upload (accountId mediaType : String) (content : Bytes) : Transfer UploadResponse
  | download (accountId blobId mediaType name : String) : Transfer Bytes

namespace Transfer

/-- The identifiers of a transfer, in the order in which they are checked. -/
def ids : Transfer α → List Id
  | .upload accountId _ _ => [⟨accountId⟩]
  | .download accountId blobId _ _ => [⟨accountId⟩, ⟨blobId⟩]

/-- The template of `s` that a transfer goes to. -/
def template (s : Session S) : Transfer α → String
  | .upload _ _ _ => s.document.uploadUrl
  | .download _ _ _ _ => s.document.downloadUrl

/-- The values that are put into the template. -/
def values : Transfer α → List (String × String)
  | .upload accountId _ _ => [("accountId", accountId)]
  | .download accountId blobId mediaType name =>
    [("accountId", accountId), ("blobId", blobId), ("type", mediaType), ("name", name)]

/-- The URL that a transfer goes to, unless it cannot be made. -/
def url? (s : Session S) (t : Transfer α) : Option String := UriTemplate.expand? (t.template s) (.ofList t.values)

/-- The request of a transfer to `url`. -/
def request (url : String) : Transfer α → Http.Request
  | .upload _ mediaType content => .post url mediaType content
  | .download _ _ _ _ => .get url

/-- Reads the body of a success. -/
def read : Transfer α → Bytes → Except Problem α
  | .upload _ _ _, body => readText body
  | .download _ _ _ _, body => .ok body

/-- What is wrong with the first identifier that is not `Valid`. -/
def fault? (t : Transfer α) : Option IdFault := t.ids.findSome? Id.fault?

/-- The attempt at the URL of a transfer (`Session.attempted`). -/
def url (s : Session S) (t : Transfer α) : Attempt String := Session.attempted t.fault? (t.url? s)

/-- What is read of the `answer` to a transfer. -/
def answered (t : Transfer α) (answer : Http.Answer) : Except Error α := do
  let response ← Job.received answer
  if response.isSuccess then Error.ofProblem (t.read response.body) else .error response.refusal

end Transfer

namespace Client

/-- Uploads or downloads a blob. -/
def transfer (c : Client S) : Transfer α → Job S Error α
  | .upload accountId mediaType content => c.upload accountId mediaType content
  | .download accountId blobId mediaType name => c.download accountId blobId mediaType name

/-- What comes of the transfer `t` once a session was opened, or was not: what is sent, and the result. -/
inductive Transfers (w : World) (t : Transfer α) (log : List Exchange) :
    Except Error (Session S) → List Exchange → Except Error α → Prop
  | unopened (e : Error) : Transfers w t log (.error e) [] (.error e)
  | invalid {s : Session S} {fault : IdFault} (hfault : t.fault? = some fault) :
      Transfers w t log (.ok s) [] (.error (.invalidId fault))
  | broken {s : Session S} (hvalid : t.fault? = none) (hurl : t.url? s = none) :
      Transfers w t log (.ok s) [] (.error .brokenTemplate)
  | sent {s : Session S} {url : String} (hvalid : t.fault? = none) (hurl : t.url? s = some url) :
      Transfers w t log (.ok s) [⟨.http (t.request url), w log (.http (t.request url))⟩]
        (t.answered (w log (.http (t.request url))))

variable {w : World} {t : Transfer α} {log sent : List Exchange} {opened : Except Error (Session S)}
  {result : Except Error α}

/-! ### The parts -/

theorem url_upload (s : Session S) (accountId mediaType : String) (content : Bytes) :
    (Transfer.upload accountId mediaType content).url s = s.uploadUrlFor accountId := by
  rw [Session.uploadUrlFor_eq, Transfer.url, Transfer.fault?]
  simp only [Transfer.ids, List.findSome?_cons, List.findSome?_nil]
  cases Id.fault? ⟨accountId⟩ <;> rfl

theorem url_download (s : Session S) (accountId blobId mediaType name : String) :
    (Transfer.download accountId blobId mediaType name).url s =
      s.downloadUrlFor accountId blobId mediaType name := by
  rw [Session.downloadUrlFor_eq, Transfer.url, Transfer.fault?]
  simp only [Transfer.ids, List.findSome?_cons, List.findSome?_nil]
  cases Id.fault? ⟨accountId⟩ with
  | some fault => rfl
  | none => cases Id.fault? ⟨blobId⟩ <;> rfl

/-- What a client does for `t` in a session that was opened. -/
def move (t : Transfer α) (h : Held S) : Job S Error α := do
  let url ← ofExcept (Error.ofAttempt (t.url h.session))
  let response ← Job.send (t.request url)
  ofExcept (if response.isSuccess then Error.ofProblem (t.read response.body) else .error response.refusal)

/-- Every transfer opens a session and goes to a URL of it. -/
theorem transfer_eq (c : Client S) (t : Transfer α) : c.transfer t = c.currentSession >>= move t := by
  cases t with
  | upload accountId mediaType content =>
    refine congrArg (c.currentSession >>= ·) (funext fun h => ?_)
    rw [move, url_upload]
    refine congrArg (ofExcept (Error.ofAttempt (h.session.uploadUrlFor accountId)) >>= ·) (funext fun url => ?_)
    refine congrArg (Job.send _ >>= ·) (funext fun response => ?_)
    cases response.isSuccess <;> rfl
  | download accountId blobId mediaType name =>
    refine congrArg (c.currentSession >>= ·) (funext fun h => ?_)
    rw [move, url_download]
    refine congrArg (ofExcept (Error.ofAttempt (h.session.downloadUrlFor accountId blobId mediaType name)) >>= ·)
      (funext fun url => ?_)
    refine congrArg (Job.send _ >>= ·) (funext fun response => ?_)
    cases response.isSuccess <;> rfl

/-- In a session that was opened the request of a transfer is sent, or else something is amiss with its URL. -/
theorem transfers_move (w : World) (t : Transfer α) (before : Option (Held S)) (log : List Exchange) (h : Held S) :
    ∃ sent result, Transfers w t log (.ok h.session) sent result ∧
      (move t h).runIn w before log = ⟨result, before, log ++ sent⟩ := by
  rw [move, Job.runIn_bind, Job.runIn_ofExcept, Transfer.url]
  cases hfault : t.fault? with
  | some fault => exact ⟨[], _, .invalid hfault, by rw [List.append_nil]; rfl⟩
  | none =>
    cases hurl : t.url? h.session with
    | none => exact ⟨[], _, .broken hfault hurl, by rw [List.append_nil]; rfl⟩
    | some url =>
      have hattempt : Error.ofAttempt (Session.attempted none (some url)) = .ok url := rfl
      refine ⟨_, _, .sent hfault hurl, ?_⟩
      rw [hattempt]
      dsimp only
      rw [Job.runIn_bind, Job.runIn_send, Transfer.answered]
      cases w log (.http (t.request url)) with
      | error failure => rfl
      | ok response => exact Job.runIn_ofExcept _

/-- The session that a client came by (`currentSession`) is held from then on. -/
theorem held_currentSession (c : Client S) (w : World) (before : Option (Held S)) (log : List Exchange) :
    let o := c.currentSession.runIn w before log
    (∀ h, before = some h → o.held = some h) ∧ ∀ h, o.result = .ok h → o.held = some h := by
  cases before with
  | some h =>
    rw [runIn_currentSession_some]
    exact ⟨fun _ heq => heq, fun _ heq => congrArg some (Except.ok.inj heq)⟩
  | none =>
    refine ⟨by simp, fun h => ?_⟩
    rw [runIn_currentSession_none]
    cases hendpoint : c.endpoint with
    | none => simp [runIn_authenticate_none hendpoint]
    | some url =>
      rw [runIn_authenticate_some hendpoint]
      dsimp only
      cases c.accept (w log (.http (.get url))) <;> simp

/-- To transfer a blob a client comes by a session, which it holds from then on, and does in it what can be done. -/
theorem transfers_transfer (c : Client S) (w : World) (t : Transfer α) (before : Option (Held S))
    (log : List Exchange) :
    let o := (c.transfer t).runIn w before log
    ∃ opened fetched sent, o.log = log ++ fetched ++ sent ∧ c.ComesBy w before log opened fetched ∧
      Transfers w t (log ++ fetched) opened sent o.result ∧ (∀ h, before = some h → o.held = some h) ∧
      ∀ s, opened = .ok s → o.held.map (·.session) = some s := by
  obtain ⟨fetched, hlog, hcomes⟩ := comesBy_currentSession c w before log
  obtain ⟨hheld, hopened⟩ := held_currentSession c w before log
  rw [transfer_eq, Job.runIn_bind]
  generalize c.currentSession.runIn w before log = o₁ at hlog hcomes hheld hopened
  obtain ⟨result, held, log'⟩ := o₁
  obtain rfl : log' = log ++ fetched := hlog
  cases result with
  | error e =>
    exact ⟨_, fetched, [], (List.append_nil _).symm, hcomes, .unopened e, hheld, by simp⟩
  | ok h =>
    obtain ⟨sent, result, htransfers, hmove⟩ := transfers_move w t held (log ++ fetched) h
    dsimp only
    rw [hmove]
    refine ⟨_, fetched, sent, rfl, hcomes, htransfers, hheld, fun s heq => ?_⟩
    obtain rfl := Except.ok.inj heq
    exact congrArg (Option.map (·.session)) (hopened h rfl)

/-! ### What follows -/

theorem Transfer.fault?_eq_none_iff : t.fault? = none ↔ ∀ id ∈ t.ids, id.Valid := by
  simp only [Transfer.fault?, List.findSome?_eq_none_iff, Id.fault?_eq_none_iff]

theorem Transfers.result_of_fault (h : Transfers w t log opened sent result) {s : Session S} {fault : IdFault}
    (hopened : opened = .ok s) (hfault : t.fault? = some fault) :
    sent = [] ∧ result = .error (.invalidId fault) := by
  cases h with
  | unopened e => cases hopened
  | invalid hfault' =>
    obtain rfl := Option.some.inj (hfault.symm.trans hfault')
    exact ⟨rfl, rfl⟩
  | broken hvalid | sent hvalid => cases hfault.symm.trans hvalid

theorem Transfers.result_of_url (h : Transfers w t log opened sent result) {s : Session S} {url : String}
    (hopened : opened = .ok s) (hvalid : t.fault? = none) (hurl : t.url? s = some url) :
    let answer : Http.Answer := w log (.http (t.request url))
    sent = [⟨.http (t.request url), answer⟩] ∧ result = t.answered answer := by
  cases h with
  | unopened e => cases hopened
  | invalid hfault => cases hfault.symm.trans hvalid
  | broken _ hbroken =>
    obtain rfl := Except.ok.inj hopened
    cases hurl.symm.trans hbroken
  | sent _ hurl' =>
    obtain rfl := Except.ok.inj hopened
    obtain rfl := Option.some.inj (hurl.symm.trans hurl')
    exact ⟨rfl, rfl⟩

theorem Transfers.result_of_unopened (h : Transfers w t log opened sent result) {e : Error}
    (hopened : opened = .error e) : sent = [] ∧ result = .error e := by
  subst hopened
  cases h
  exact ⟨rfl, rfl⟩

/-- Nothing is sent with an identifier in it that is not `Valid`. -/
theorem Transfers.valid_of_sent (h : Transfers w t log opened sent result) (hsent : sent ≠ []) :
    ∀ id ∈ t.ids, id.Valid := by
  cases h with
  | unopened | invalid | broken => exact absurd rfl hsent
  | sent hvalid => exact Transfer.fault?_eq_none_iff.1 hvalid

theorem Transfers.sent_ne_nil_iff (h : Transfers w t log opened sent result) :
    sent ≠ [] ↔ ∃ s url, opened = .ok s ∧ (∀ id ∈ t.ids, id.Valid) ∧ t.url? s = some url := by
  cases h with
  | unopened e => simp
  | invalid hfault => simp [← Transfer.fault?_eq_none_iff, hfault]
  | broken hvalid hurl => simp [hurl]
  | sent hvalid hurl => simp [← Transfer.fault?_eq_none_iff, hvalid, hurl]

/-- A transfer for which nothing is sent fails. -/
theorem Transfers.exists_error (h : Transfers w t log opened sent result) (hsent : sent = []) :
    ∃ e, result = .error e := by
  cases h with
  | unopened | invalid | broken => exact ⟨_, rfl⟩
  | sent => cases hsent

/-- Nothing but a request is sent for a transfer. -/
theorem Transfers.exists_http (h : Transfers w t log opened sent result) : ∀ x ∈ sent, ∃ r, x.effect = .http r := by
  cases h <;> simp

theorem answered_of_success {response : Http.Response} (h : 200 ≤ response.status ∧ response.status < 300) :
    t.answered (.ok response) = Error.ofProblem (t.read response.body) := by
  simp [Transfer.answered, Job.received, Http.Response.isSuccess, h]

theorem answered_of_refusal {response : Http.Response} (h : ¬ (200 ≤ response.status ∧ response.status < 300)) :
    t.answered (.ok response) = .error response.refusal := by
  simp only [Transfer.answered, Job.received, Http.Response.isSuccess, ok_bind, h]
  rfl

theorem Transfer.answered_eq_ok_iff {answer : Http.Answer} {x : α} :
    t.answered answer = .ok x ↔ ∃ response, answer = .ok response ∧ (200 ≤ response.status ∧ response.status < 300) ∧
      t.read response.body = .ok x := by
  cases answer with
  | error failure => simp [Transfer.answered, Job.received]
  | ok response =>
    by_cases h : 200 ≤ response.status ∧ response.status < 300
    · simp [answered_of_success h, Error.ofProblem_eq_ok_iff, h]
    · simp [answered_of_refusal h, h]

/-- A transfer sends one request at most, with `Valid` identifiers only, to the URL that the template of its session
gives, and the answer decides. A session that is held stays. -/
theorem transfer_exact (c : Client S) (w : World) (t : Transfer α) (before : Option (Held S)) (log : List Exchange) :
    let o := (c.transfer t).runIn w before log
    ∃ opened fetched sent, o.log = log ++ fetched ++ sent ∧ c.ComesBy w before log opened fetched ∧
      (∀ e, opened = .error e → sent = [] ∧ o.result = .error e) ∧
      (∀ s fault, opened = .ok s → t.ids.findSome? Id.fault? = some fault →
        sent = [] ∧ o.result = .error (.invalidId fault)) ∧
      (∀ s url, opened = .ok s → (∀ id ∈ t.ids, id.Valid) → t.url? s = some url →
        let answer : Http.Answer := w (log ++ fetched) (.http (t.request url))
        sent = [⟨.http (t.request url), answer⟩] ∧
        (∀ failure, answer = .error failure → o.result = .error (.http failure)) ∧
        (∀ response, answer = .ok response →
          let success := 200 ≤ response.status ∧ response.status < 300
          (∀ x, o.result = .ok x ↔ success ∧ t.read response.body = .ok x) ∧
          (success → ∀ p, t.read response.body = .error p → o.result = .error (.json p)) ∧
          (¬ success → (∃ e, o.result = .error (.request e)) ∨
            o.result = .error (.status response.status response.bodyText)))) ∧
      (sent ≠ [] → ∀ id ∈ t.ids, id.Valid) ∧
      (∀ h, before = some h → o.held = some h) ∧
      ∀ s, opened = .ok s → o.held.map (·.session) = some s := by
  intro o
  obtain ⟨opened, fetched, sent, hlog, hcomes, h, hheld, hsession⟩ := transfers_transfer c w t before log
  refine ⟨opened, fetched, sent, hlog, hcomes, fun e => h.result_of_unopened, fun s fault => h.result_of_fault,
    fun s url hopened hvalid hurl => ?_, h.valid_of_sent, hheld, hsession⟩
  obtain ⟨hsent, hresult⟩ := h.result_of_url hopened (Transfer.fault?_eq_none_iff.2 hvalid) hurl
  have hresult : o.result = _ := hresult
  refine ⟨hsent, fun failure hanswer => ?_, fun response hanswer => ?_⟩
  · rw [hresult, hanswer]
    rfl
  · rw [hresult, hanswer]
    by_cases hsuccess : 200 ≤ response.status ∧ response.status < 300
    · rw [answered_of_success hsuccess]
      refine ⟨fun x => ?_, fun _ p hp => ?_, fun hnot => absurd hsuccess hnot⟩
      · rw [Error.ofProblem_eq_ok_iff]
        exact (and_iff_right hsuccess).symm
      · rw [hp]
        rfl
    · rw [answered_of_refusal hsuccess]
      refine ⟨fun x => ?_, fun h => absurd h hsuccess, fun _ => ?_⟩
      · simp [hsuccess]
      · simpa using response.refusal_cases

/-- A session is fetched, and with the template that it has a blob is downloaded. A status of success that is not 200 is
one here. -/
theorem transfer_exact_of_download :
    let body := Utf8.encode <|
      "\x7b\"capabilities\":\x7b\x7d,\"accounts\":\x7b\x7d,\"primaryAccounts\":\x7b\x7d,\"apiUrl\":\"a\"," ++
      "\"downloadUrl\":\"d/\x7bblobId\x7d/\x7bname\x7d\"\x7d"
    let c : Client Schema.core := ⟨.core, some "e"⟩
    let w := World.scripted [.ok ⟨200, none, body⟩, .ok ⟨206, none, [1, 2]⟩]
    let o := (c.transfer (.download "A" "B" "text/plain" "n/m")).runIn w none []
    o.log = [⟨.http (.get "e"), .ok ⟨200, none, body⟩⟩,
        ⟨.http (.get "d/B/n%2Fm"), .ok ⟨206, none, [1, 2]⟩⟩] ∧
      o.result = .ok [1, 2] := by
  intro body c w o
  let t : Transfer Bytes := .download "A" "B" "text/plain" "n/m"
  obtain ⟨opened, fetched, sent, hlog, hcomes, -, -, hsent, -⟩ := transfer_exact c w t none []
  obtain ⟨rfl, rfl⟩ := hcomes.of_endpoint "e" rfl rfl
  have htemplate : (c.accept (.ok ⟨200, none, body⟩)).toOption.map (·.document.downloadUrl) =
      some "d/\x7bblobId\x7d/\x7bname\x7d" := by
    simp only [body, Utf8.encode_eq_data]
    decide +kernel
  obtain ⟨s, hopened, htemplate⟩ := toOption_map_eq_some_iff.1 htemplate
  have hvalid : ∀ id ∈ t.ids, id.Valid := Transfer.fault?_eq_none_iff.1 (by decide)
  have hurl : t.url? s = some "d/B/n%2Fm" := by
    rw [Transfer.url?, show t.template s = _ from htemplate]
    decide +kernel
  obtain ⟨hone, -, hanswer⟩ := hsent s _ hopened hvalid hurl
  refine ⟨?_, ((hanswer ⟨206, none, [1, 2]⟩ rfl).1 [1, 2]).2 ⟨by decide, rfl⟩⟩
  rw [hlog, hone]
  rfl

end Client

end JmapClient
