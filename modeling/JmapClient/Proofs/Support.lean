import JmapClient.Proofs.Building
import JmapClient.Proofs.Maps
import JmapClient.Proofs.Runs

/-!
# What the server supports

No call is sent that needs a capability which the server has not told of (`Client.posts_supported`). The
batches know all the capabilities that their calls need, as `Build.run_exact` says of them, and the client
compares these with its session before it sends anything.
-/

namespace JmapClient

open Json

variable {S : Schema}

theorem Session.supports_iff {s : Session S} {u : Uri} :
    s.supports u = true ↔ u ∈ s.document.capabilities.keys :=
  SortedMap.contains_iff

theorem Session.not_supports (s : Session S) :
    (fun u => !s.supports u) = fun u => decide (u ∉ s.document.capabilities.keys) := by
  funext u
  rw [Bool.eq_iff_iff, Bool.not_eq_true', decide_eq_true_iff, ← supports_iff, Bool.not_eq_true]

/-- The first capability that is missing for a batch in `s` is the first that is missing for its calls. -/
theorem Build.find?_uses (steps : List BuildStep) (s : Session S) :
    (run steps).request.uses.find? (!s.supports ·) =
      ((run steps).queued.flatMap (·.method.requires)).find?
        (· ∉ s.document.capabilities.keys) := by
  rw [(sound_run steps).uses_eq, find?_eraseDups, s.not_supports, required]

namespace Client

section

variable {c : Client S} {op : Operation} {before after : Option (Held S)}
  {opened : Except Error (Held S)} {fetched : List Exchange}

theorem Opens.after_eq_of_ok {h : Held S} (hopens : c.Opens op before (.ok h) after fetched) :
    after = some h := by
  cases hopens <;> rfl

/-- A session is opened (`Opens`) without posting anything. -/
theorem Opens.effect_ne_post (hopens : c.Opens op before opened after fetched) {x : Exchange}
    (hx : x ∈ fetched) (url mediaType : String) (body : List UInt8) :
    x.effect ≠ .http (.post url mediaType body) := by
  cases hopens with
  | kept h hop => cases hx
  | nowhere hfetch hendpoint => cases hx
  | refused hfetch hendpoint haccept =>
    obtain rfl := List.mem_singleton.1 hx
    simp
  | accepted hfetch hendpoint haccept =>
    obtain rfl := List.mem_singleton.1 hx
    simp

end

theorem request?_execute_of_some {r : Request} {s : Session S} {u : Uri}
    (h : r.uses.find? (!s.supports ·) = some u) :
    (Operation.execute r).request? s = .error (.unsupportedCapability u) := by
  simp only [Operation.request?, h]

theorem request?_execute_of_none {r : Request} {s : Session S} {text : String}
    (h : r.uses.find? (!s.supports ·) = none) (htext : toText r = .ok text) :
    (Operation.execute r).request? s =
      .ok (some (.post s.document.apiUrl "application/json" (Utf8.encode text))) := by
  simp only [Operation.request?, h, htext]
  rfl

/-- A batch is posted only where nothing is missing, and as it is. -/
theorem of_request?_execute {r : Request} {s : Session S} {request : Http.Request}
    (h : (Operation.execute r).request? s = .ok (some request)) :
    r.uses.find? (!s.supports ·) = none ∧ ∃ text, toText r = .ok text ∧
      request = .post s.document.apiUrl "application/json" (Utf8.encode text) := by
  cases hfind : r.uses.find? (!s.supports ·) with
  | some u =>
    rw [request?_execute_of_some hfind] at h
    cases h
  | none =>
    simp only [Operation.request?, hfind] at h
    cases htext : toText r with
    | error p =>
      rw [htext] at h
      cases h
    | ok text =>
      rw [htext] at h
      exact ⟨rfl, text, rfl, (Option.some.inj (Except.ok.inj h)).symm⟩

/-- What a run posts for a batch is the batch, to the `apiUrl` of the session that is held from then on, whose server
has told of all that the calls need; else the first capability that is missing is named. -/
theorem posts_supported {c : Client S} {w : World} {before : Option (Held S)} {log : List Exchange}
    {ops : List Operation} {call : Call S} (hcall : call ∈ c.run w before log ops)
    {steps : List BuildStep} (hop : call.operation = .execute (Build.run steps).request) :
    (∀ x ∈ call.exchanges, ∀ url mediaType body, x.effect = .http (.post url mediaType body) →
      ∃ h text, call.opened = .ok h ∧ call.after = some h ∧ url = h.session.document.apiUrl ∧
        toText (Build.run steps).request = .ok text ∧ body = Utf8.encode text ∧
        ∀ q ∈ (Build.run steps).queued, ∀ u ∈ q.method.requires,
          u ∈ h.session.document.capabilities.keys) ∧
    ∀ h, call.opened = .ok h →
      (∃ q ∈ (Build.run steps).queued, ∃ u ∈ q.method.requires,
        u ∉ h.session.document.capabilities.keys) →
      (∃ u, ((Build.run steps).queued.flatMap (·.method.requires)).find?
          (· ∉ h.session.document.capabilities.keys) = some u ∧
        call.result = .error (.unsupportedCapability u)) ∧
      ∀ x ∈ call.exchanges, ∀ url mediaType body, x.effect ≠ .http (.post url mediaType body) := by
  obtain ⟨hopens, sent, hexchanges, hfinishes⟩ := sound_run call hcall
  rw [hop] at hfinishes
  rw [hexchanges]
  constructor
  · intro x hx url mediaType body heffect
    rcases List.mem_append.1 hx with hx | hx
    · exact absurd heffect (hopens.effect_ne_post hx url mediaType body)
    · rcases hfinishes.sent_eq with hsent | ⟨h, r, answer, hopened, hrequest, hsent⟩
      · simp [hsent] at hx
      · rw [hsent] at hx
        obtain rfl := List.mem_singleton.1 hx
        obtain ⟨hfind, text, htext, rfl⟩ := of_request?_execute hrequest
        obtain ⟨rfl, rfl, rfl⟩ := Http.Request.post.inj (Effect.http.inj heffect)
        rw [hopened] at hopens
        refine ⟨h, text, hopened, hopens.after_eq_of_ok, rfl, htext, rfl, fun q hq u hu => ?_⟩
        rw [Build.find?_uses] at hfind
        simpa using List.find?_eq_none.1 hfind u (List.mem_flatMap.2 ⟨q, hq, hu⟩)
  · intro h hopened ⟨q, hq, u, hu, hmissing⟩
    have hsome : (((Build.run steps).queued.flatMap (·.method.requires)).find?
        (· ∉ h.session.document.capabilities.keys)).isSome :=
      List.find?_isSome.2 ⟨u, List.mem_flatMap.2 ⟨q, hq, hu⟩, by simpa using hmissing⟩
    obtain ⟨v, hv⟩ := Option.isSome_iff_exists.1 hsome
    rw [hopened] at hfinishes
    obtain ⟨hresult, rfl⟩ := hfinishes.of_request?_error
      (request?_execute_of_some (by rw [Build.find?_uses, hv]))
    refine ⟨⟨v, hv, hresult⟩, fun x hx => ?_⟩
    rw [List.append_nil] at hx
    exact hopens.effect_ne_post hx

/-- An echo is not sent to a server without capabilities. -/
theorem posts_supported_echo :
    let body := Utf8.encode
      "\x7b\"capabilities\":\x7b\x7d,\"accounts\":\x7b\x7d,\"primaryAccounts\":\x7b\x7d,\"apiUrl\":\"a\"\x7d"
    let c : Client Schema.core := ⟨.core, some "e"⟩
    let w := World.scripted [.ok ⟨200, none, body⟩]
    let steps : List BuildStep := [.invokeAs "0" Echo.empty.call]
    let call := c.call w (.execute (Build.run steps).request) none []
    call ∈ c.run w none [] [.execute (Build.run steps).request] ∧ call.opened.isOk ∧
      call.result = .error (.unsupportedCapability Core.uri) ∧
      ∀ x ∈ call.exchanges, ∀ url mediaType body, x.effect ≠ .http (.post url mediaType body) := by
  intro body c w steps call
  have hcall : call ∈ c.run w none [] [.execute (Build.run steps).request] := List.mem_cons_self
  have hqueued : (Build.run steps).queued = [⟨Echo.empty.call, "0"⟩] := by
    show (Build.empty.step (.invokeAs "0" Echo.empty.call)).queued = _
    rw [Build.step_invokeAs (by decide) rfl (by decide +kernel)]
    rfl
  have hnone : call.opened.toOption.map (·.session.document.capabilities.keys) = some [] := by
    decide +kernel
  obtain ⟨-, hrefused⟩ := posts_supported hcall rfl
  obtain ⟨h, hopened, hkeys⟩ := toOption_map_eq_some_iff.1 hnone
  have hmissing : ∃ q ∈ (Build.run steps).queued, ∃ u ∈ q.method.requires,
      u ∉ h.session.document.capabilities.keys := by
    rw [hqueued, hkeys]
    exact ⟨_, List.mem_singleton_self _, Core.uri, List.mem_singleton_self _, List.not_mem_nil⟩
  obtain ⟨⟨u, hu, hresult⟩, hposts⟩ := hrefused h hopened hmissing
  rw [hqueued] at hu
  obtain rfl : u = Core.uri := List.mem_singleton.1 (List.mem_of_find?_eq_some hu)
  exact ⟨hcall, isOk_iff_exists.2 ⟨h, hopened⟩, hresult, hposts⟩

end Client

end JmapClient
