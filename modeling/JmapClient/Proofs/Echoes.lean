import JmapClient.Proofs.Building
import JmapClient.Proofs.Decoding
import JmapClient.Proofs.Taking
import JmapClient.Proofs.Utf8

/-!
# Echoes

The ids of calls tie answers to calls. A batch of echoes is answered call by call, in any order, with the
call's own arguments or with an error (`Reaction`). The answer is decoded, and whatever the order in which
answers are taken, each call is given what was answered to it (`Response.take_echo_of_perm`).
-/

namespace JmapClient

open Json

variable {S : Schema}

/-! ### Batches of echoes -/

/-- The arguments of an echo as a value. -/
def Echo.value (e : Echo) : Value := .ofMap e.arguments

/-- Where only echoes are queued, the arguments of every call are those of an echo. -/
theorem Build.exists_echo {steps : List BuildStep}
    (hsteps : ∀ s ∈ steps, ∀ m, s.method? = some m → ∃ e : Echo, m = e.call) :
    ∀ c ∈ (run steps).request.calls, ∃ e : Echo, e.value = c.content := by
  refine run_induction (P := fun b => ∀ c ∈ b.request.calls, ∃ e : Echo, e.value = c.content)
    (by simp [empty, Request.empty]) fun b s hs ih => ?_
  rcases b.step_cases s with h | ⟨ids, h⟩ | ⟨m, v, callId, hm, -, hv, -, h⟩
  · rwa [h]
  · rw [h]
    exact ih
  · rw [h]
    intro c hc
    simp only [Request.push, List.mem_append, List.mem_singleton] at hc
    rcases hc with hc | rfl
    · exact ih c hc
    · obtain ⟨e, rfl⟩ := hsteps s hs m hm
      exact ⟨e, Except.ok.inj hv⟩

/-! ### Answers to echoes -/

/-- What a server does with an echo: it answers with the arguments or fails with an error. -/
inductive Reaction
  | echoed
  | failed (payload : Value)

namespace Reaction

/-- The element of the answer to `call`. -/
def element (v : Reaction) (call : Invocation Value) : Invocation Value :=
  match v with
  | .echoed => ⟨Echo.methodName, call.content, call.callId⟩
  | .failed payload => ⟨errorName, payload, call.callId⟩

/-- The error that is decoded from the answer, if it is one (`MethodError`). -/
def error? : Reaction → Option MethodError
  | .echoed => none
  | .failed payload => some (MethodError.ofValue payload)

/-- What is taken for `call`: its arguments or the error. -/
def outcome (v : Reaction) (call : Invocation Value) : Except Error Value :=
  match v.error? with
  | none => .ok call.content
  | some e => .error (.method e)

end Reaction

/-- What the answer to `call` is decoded as. -/
inductive Answers (call : Invocation Value) : Reaction → Invocation (Payload S) → Prop
  | echoed (e : Echo) (h : e.value = call.content) :
    Answers call .echoed ⟨Echo.methodName, ⟨.echo, e⟩, call.callId⟩
  | failed (payload : Value) :
    Answers call (.failed payload) ⟨errorName, ⟨.methodError, MethodError.ofValue payload⟩, call.callId⟩

namespace Answers

variable {call : Invocation Value} {v : Reaction} {i : Invocation (Payload S)}

theorem callId_eq (h : Answers call v i) : i.callId = call.callId := by
  cases h <;> rfl

theorem isError_eq (h : Answers call v i) : i.isError = v.error?.isSome := by
  cases h <;> rfl

theorem error?_eq (h : Answers call v i) : i.error? = v.error? := by
  cases h <;> rfl

/-- The answer to a call with the arguments of an echo is decoded. -/
theorem ofValue_element (v : Reaction) {e : Echo} (he : e.value = call.content) :
    ∃ i : Invocation (Payload S), Answers call v i ∧
      Invocation.ofValue Registry.core.methods (v.element call).value = .ok i := by
  cases v with
  | echoed =>
    refine ⟨_, .echoed e he, ?_⟩
    simp only [Invocation.ofValue_value, Reaction.element, ← he, Echo.value, decode_core_echo, map_ok]
  | failed payload =>
    refine ⟨_, .failed payload, ?_⟩
    simp only [Invocation.ofValue_value, Reaction.element, decode_core_error, map_ok]

end Answers

/-! ### Taking the answers -/

/-- What remains of `answers` when some calls were asked for: the errors and the answers to other calls. -/
def remaining (answers : List (Invocation (Payload S))) (callIds : List String) :
    List (Invocation (Payload S)) :=
  answers.filter fun i => i.isError || i.callId ∉ callIds

section Taking

variable {answers : List (Invocation (Payload S))} {callId : String} {callIds : List String}

theorem remaining_nil : remaining answers [] = answers := by
  simp [remaining]

/-- A call at which the server failed can be asked for without effect. -/
theorem remaining_cons_of_isError (h : ∀ i ∈ answers, i.callId = callId → i.isError = true) :
    remaining answers (callId :: callIds) = remaining answers callIds := by
  refine List.filter_congr fun i hi => ?_
  by_cases hid : i.callId = callId
  · simp [h i hi hid]
  · simp [hid]

theorem remaining_cons_of_not_isError (h : ∀ i ∈ answers, i.callId = callId → i.isError = false) :
    remaining answers (callId :: callIds) =
      remaining (answers.filter (·.callId != callId)) callIds := by
  unfold remaining
  rw [List.filter_filter]
  refine List.filter_congr fun i hi => ?_
  by_cases hid : i.callId = callId
  · simp [h i hi hid, hid]
  · simp [hid]

variable {reaction : String → Reaction}

/-- Each call is given what was answered to it, and the others are as they were. -/
theorem takeEach_of_answers {r : Response S} (hr : (r.answers.map (·.callId)).Nodup)
    {asked : List (Invocation Value)} (hasked : (asked.map (·.callId)).Nodup)
    (h : ∀ c ∈ asked, ∃ i ∈ r.answers, Answers c (reaction c.callId) i) :
    (r.takeEach .echo (asked.map (·.callId))).1.map (Except.map Echo.value) =
        asked.map (fun c => (reaction c.callId).outcome c) ∧
      (r.takeEach .echo (asked.map (·.callId))).2 =
        { r with answers := remaining r.answers (asked.map (·.callId)) } := by
  induction asked generalizing r with
  | nil =>
    refine ⟨rfl, ?_⟩
    rw [List.map_nil, Response.takeEach, remaining_nil]
  | cons c asked ih =>
    obtain ⟨hc, hasked⟩ := List.nodup_cons.1 (by simpa only [List.map_cons] using hasked)
    obtain ⟨i, hi, hanswer⟩ := h c (by simp)
    have hrest : ∀ d ∈ asked, ∃ j ∈ r.answers, Answers d (reaction d.callId) j :=
      fun d hd => h d (by simp [hd])
    have hisError : ∀ j ∈ r.answers, j.callId = c.callId → j.isError = i.isError := by
      intro j hj hid
      rw [eq_of_callId_eq hr hi hj (hid.trans hanswer.callId_eq.symm)]
    rw [List.map_cons, List.map_cons]
    generalize reaction c.callId = v at hanswer ⊢
    cases hanswer with
    | echoed e he =>
      -- The answer is taken, so the others are looked for in what is left.
      set left : Response S := { r with answers := r.answers.filter (·.callId != c.callId) } with hleft
      have htake : r.take .echo c.callId = .ok (e, left) := Response.take_of_mem hr hi rfl
      have hnodup : (left.answers.map (·.callId)).Nodup := hr.sublist (List.filter_sublist.map _)
      have hmem : ∀ d ∈ asked, ∃ j ∈ left.answers, Answers d (reaction d.callId) j := by
        intro d hd
        obtain ⟨j, hj, hjd⟩ := hrest d hd
        refine ⟨j, List.mem_filter.2 ⟨hj, ?_⟩, hjd⟩
        simp only [bne_iff_ne, hjd.callId_eq]
        exact fun hid => hc (List.mem_map.2 ⟨d, hd, hid⟩)
      obtain ⟨hout, hlast⟩ := ih hnodup hasked hmem
      rw [Response.takeEach_cons_of_ok htake]
      refine ⟨?_, ?_⟩
      · show Except.ok e.value :: List.map (Except.map Echo.value) _ = _
        rw [hout, he]
        rfl
      · rw [hlast, hleft, remaining_cons_of_not_isError hisError]
    | failed payload =>
      have htake : r.take .echo c.callId = .error (.method (MethodError.ofValue payload)) :=
        Response.take_of_error hr hi (by simp) rfl rfl
      obtain ⟨hout, hlast⟩ := ih hr hasked hrest
      rw [Response.takeEach_cons_of_error htake]
      refine ⟨?_, ?_⟩
      · show Except.error (Error.method (MethodError.ofValue payload)) ::
          List.map (Except.map Echo.value) _ = _
        rw [hout]
        rfl
      · rw [hlast, remaining_cons_of_isError hisError]

end Taking

/-! ### Answers to whole batches -/

section Batches

variable {reaction : String → Reaction} {order : List (Invocation Value)}

/-- The elements of the answer to a batch of echoes are all decoded (`Answers`). -/
theorem exists_answers (reaction : String → Reaction) (h : ∀ c ∈ order, ∃ e : Echo, e.value = c.content) :
    ∃ answers : List (Invocation (Payload S)),
      List.Forall₂ (fun c i => Answers c (reaction c.callId) i) order answers ∧
        List.Forall₂ (fun v i => Invocation.ofValue Registry.core.methods v = .ok i)
          (order.map fun c => ((reaction c.callId).element c).value) answers := by
  induction order with
  | nil => exact ⟨[], .nil, .nil⟩
  | cons c order ih =>
    obtain ⟨e, he⟩ := h c (by simp)
    obtain ⟨i, hi, hdecoded⟩ := Answers.ofValue_element (S := S) (reaction c.callId) he
    obtain ⟨answers, h₁, h₂⟩ := ih fun c hc => h c (by simp [hc])
    exact ⟨i :: answers, .cons hi h₁, .cons hdecoded h₂⟩

variable {answers : List (Invocation (Payload S))}

theorem map_callId_of_answers
    (h : List.Forall₂ (fun c i => Answers c (reaction c.callId) i) order answers) :
    answers.map (·.callId) = order.map (·.callId) := by
  induction h with
  | nil => rfl
  | cons hanswer _ ih => rw [List.map_cons, List.map_cons, hanswer.callId_eq, ih]

theorem exists_answer_of_mem
    (h : List.Forall₂ (fun c i => Answers c (reaction c.callId) i) order answers)
    {c : Invocation Value} (hc : c ∈ order) : ∃ i ∈ answers, Answers c (reaction c.callId) i :=
  exists_mem_of_forall₂ h hc

theorem exists_call_of_mem
    (h : List.Forall₂ (fun c i => Answers c (reaction c.callId) i) order answers)
    {i : Invocation (Payload S)} (hi : i ∈ answers) : ∃ c ∈ order, Answers c (reaction c.callId) i :=
  exists_mem_of_forall₂ (List.Forall₂.flip h) hi

theorem filterMap_error?_of_answers
    (h : List.Forall₂ (fun c i => Answers c (reaction c.callId) i) order answers) :
    (answers.filterMap fun i => i.error?.map fun e => (i.callId, e)) =
      order.filterMap fun c => (reaction c.callId).error?.map fun e => (c.callId, e) := by
  induction h with
  | nil => rfl
  | cons hanswer _ ih =>
    rw [List.filterMap_cons, List.filterMap_cons, ih, hanswer.error?_eq, hanswer.callId_eq]

/-- Once everything that was echoed is asked for, only errors are left. -/
theorem remaining_of_answers
    (h : List.Forall₂ (fun c i => Answers c (reaction c.callId) i) order answers)
    {asked : List (Invocation Value)} (hasked : ∀ c ∈ order, reaction c.callId = .echoed → c ∈ asked) :
    remaining answers (asked.map (·.callId)) = answers.filter (·.isError) := by
  refine List.filter_congr fun i hi => ?_
  obtain ⟨c, hc, hanswer⟩ := exists_call_of_mem h hi
  rw [hanswer.isError_eq, hanswer.callId_eq]
  cases hv : reaction c.callId with
  | echoed =>
    have hmem : c.callId ∈ asked.map (·.callId) := List.mem_map_of_mem (hasked c hc hv)
    simp [hmem]
  | failed payload => simp [Reaction.error?]

end Batches

/-- Echoes that are answered in any `order` and taken in any order give each call its own arguments or its own error,
and only the errors are left. -/
theorem Response.take_echo_of_perm {steps : List BuildStep}
    (hsteps : ∀ s ∈ steps, ∀ m, s.method? = some m → ∃ e : Echo, m = e.call)
    (reaction : String → Reaction) {order : List (Invocation Value)}
    (horder : order.Perm (Build.run steps).request.calls) {body : List UInt8} {state : String}
    (hbody : Envelope.IsText body (order.map fun c => ((reaction c.callId).element c).value) state) :
    ∃ r : Response S, ofBytes Registry.core.methods body = .ok r ∧ r.sessionState = state ∧
      List.Forall₂ (fun c i => Answers c (reaction c.callId) i) order r.answers ∧
      (∀ asked : List (Invocation Value), asked.Nodup →
        (∀ c ∈ asked, c ∈ (Build.run steps).request.calls) →
        (r.takeEach .echo (asked.map (·.callId))).1.map (Except.map Echo.value) =
            asked.map (fun c => (reaction c.callId).outcome c) ∧
          ((∀ c ∈ (Build.run steps).request.calls, reaction c.callId = .echoed → c ∈ asked) →
            (r.takeEach .echo (asked.map (·.callId))).2 =
              { r with answers := r.answers.filter (·.isError) })) ∧
      r.methodErrors = order.filterMap fun c =>
        (reaction c.callId).error?.map fun e => (c.callId, e) := by
  have hcalls : ((Build.run steps).request.calls.map (·.callId)).Nodup :=
    (Build.sound_run steps).nodup_callIds
  have hechoes : ∀ c ∈ order, ∃ e : Echo, e.value = c.content :=
    fun c hc => Build.exists_echo hsteps c (horder.mem_iff.1 hc)
  obtain ⟨answers, hanswers, hdecoded⟩ := exists_answers (S := S) reaction hechoes
  obtain ⟨ids, hok⟩ := ofBytes_eq_ok_of_isText hbody hdecoded
  refine ⟨⟨answers, ids, state⟩, hok, rfl, hanswers, fun asked hnodup hmem => ?_,
    filterMap_error?_of_answers hanswers⟩
  have hids : (answers.map (·.callId)).Nodup := by
    rw [map_callId_of_answers hanswers]
    exact (horder.map _).nodup_iff.2 hcalls
  have hasked : (asked.map (·.callId)).Nodup :=
    hnodup.map_on fun c hc d hd => List.inj_on_of_nodup_map hcalls (hmem c hc) (hmem d hd)
  obtain ⟨hout, hleft⟩ := takeEach_of_answers (r := ⟨answers, ids, state⟩) hids hasked
    fun c hc => exists_answer_of_mem hanswers (horder.mem_iff.2 (hmem c hc))
  refine ⟨hout, fun hall => ?_⟩
  rw [hleft, remaining_of_answers hanswers fun c hc => hall c (horder.mem_iff.1 hc)]

/-- The first of two echoes is echoed and the server fails at the second, which it answers first. -/
theorem Response.take_echo_of_two :
    let told : Echo := Echo.empty.insert "k" (.ofTree (.bool true))
    let body := Utf8.encode
      "\x7b\"methodResponses\":[[\"error\",null,\"b\"],[\"Core/echo\",\x7b\"k\":true\x7d,\"a\"]],\"sessionState\":\"s\"\x7d"
    let error := MethodError.ofValue (.ofTree .null)
    ∃ r : Response Schema.core, ofBytes Registry.core.methods body = .ok r ∧
      (r.takeEach .echo ["a", "b"]).1.map (Except.map Echo.value) =
        [.ok told.value, .error (.method error)] ∧
      r.methodErrors = [("b", error)] := by
  intro told body error
  let steps : List BuildStep := [.invokeAs "a" told.call, .invokeAs "b" Echo.empty.call]
  let reaction (callId : String) : Reaction := if callId = "a" then .echoed else .failed (.ofTree .null)
  let first : Invocation Value := ⟨Echo.methodName, told.value, "a"⟩
  let second : Invocation Value := ⟨Echo.methodName, Echo.empty.value, "b"⟩
  have hsteps : ∀ s ∈ steps, ∀ m, s.method? = some m → ∃ e : Echo, m = e.call := by
    simp only [steps, List.forall_mem_cons, BuildStep.method?, Option.some.injEq]
    exact ⟨fun m h => ⟨_, h.symm⟩, fun m h => ⟨_, h.symm⟩, by simp⟩
  have hcalls : (Build.run steps).request.calls = [first, second] := by
    show ((Build.empty.step (.invokeAs "a" told.call)).step
      (.invokeAs "b" Echo.empty.call)).request.calls = _
    rw [Build.step_invokeAs (by decide) rfl (by decide +kernel),
      Build.step_invokeAs (by decide) rfl (by decide +kernel)]
    rfl
  have horder : [second, first].Perm (Build.run steps).request.calls := by
    rw [hcalls]
    exact .swap _ _ _
  have htree : Tree.ofBytes body = .ok (.object [("methodResponses",
        .array [.array [.string "error", .null, .string "b"],
          .array [.string "Core/echo", .object [("k", .bool true)], .string "a"]]),
      ("sessionState", .string "s")]) := by
    simp only [body, Utf8.encode_eq_data]
    decide +kernel
  have hbody : Envelope.IsText body
      ([second, first].map fun c => ((reaction c.callId).element c).value) "s" := by
    refine ⟨_, _, htree, by decide, List.mem_cons_self, ?_, by simp, by simp⟩
    with_unfolding_all rfl
  obtain ⟨r, hr, -, -, htaken, herrors⟩ := take_echo_of_perm hsteps reaction horder hbody
  have hasked : ∀ c ∈ [first, second], c ∈ (Build.run steps).request.calls := by
    rw [hcalls]
    exact fun c hc => hc
  have hnodup : [first, second].Nodup := by
    simp [first, second]
  exact ⟨r, hr, (htaken [first, second] hnodup hasked).1, herrors⟩

/-- That the elements and the state are well formed is not enough: an answer is not decoded where records
created earlier are anything but a map, or where the state is given twice. -/
theorem Response.ofBytes_ne_ok_of_parts :
    let mistyped := Utf8.encode "\x7b\"methodResponses\":[],\"sessionState\":\"\",\"createdIds\":true\x7d"
    let repeated := Utf8.encode "\x7b\"methodResponses\":[],\"sessionState\":\"a\",\"sessionState\":\"b\"\x7d"
    (Build.run []).request.calls = [] ∧
      ∀ body ∈ [mistyped, repeated],
        (∃ ms state, Value.ofBytes body = .ok (.ofMap ms) ∧
          ms.find? "methodResponses" = some (.ofTree (.array [])) ∧
          ms.find? "sessionState" = some (.ofTree (.string state))) ∧
        ∀ r : Response Schema.core, ofBytes Registry.core.methods body ≠ .ok r := by
  intro mistyped repeated
  have hmistyped : Tree.ofBytes mistyped = .ok (.object [("methodResponses", .array []),
      ("sessionState", .string ""), ("createdIds", .bool true)]) := by
    simp only [mistyped, Utf8.encode_eq_data]
    decide +kernel
  have hrepeated : Tree.ofBytes repeated = .ok (.object [("methodResponses", .array []),
      ("sessionState", .string "a"), ("sessionState", .string "b")]) := by
    simp only [repeated, Utf8.encode_eq_data]
    decide +kernel
  have hfail {body : List UInt8} (h : (ofBytes (S := Schema.core) Registry.core.methods body).isOk = false)
      (r : Response Schema.core) : ofBytes Registry.core.methods body ≠ .ok r := by
    intro hr
    rw [hr] at h
    cases h
  refine ⟨rfl, ?_⟩
  simp only [List.forall_mem_cons, List.not_mem_nil, IsEmpty.forall_iff, implies_true, and_true]
  refine ⟨⟨?_, hfail (by decide +kernel)⟩, ?_, hfail (by decide +kernel)⟩
  · refine ⟨.ofList [("methodResponses", .ofTree (.array [])), ("sessionState", .ofTree (.string "")),
      ("createdIds", .ofTree (.bool true))], "", ?_, by with_unfolding_all rfl, by with_unfolding_all rfl⟩
    rw [Value.ofBytes, hmistyped, map_ok]
    exact congrArg _ (Value.ext (by with_unfolding_all rfl))
  · refine ⟨.ofList [("methodResponses", .ofTree (.array [])), ("sessionState", .ofTree (.string "b"))],
      "b", ?_, by with_unfolding_all rfl, by with_unfolding_all rfl⟩
    rw [Value.ofBytes, hrepeated, map_ok]
    exact congrArg _ (Value.ext (by with_unfolding_all rfl))

end JmapClient
