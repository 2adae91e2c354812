import JmapClient.Proofs.Elements
import JmapClient.Proofs.Registrations
import JmapClient.Proofs.Salvaging
import JmapClient.Proofs.Taking
import JmapClient.Proofs.Utf8

/-!
# Errors in place of answers

Where errors are decoded leniently, an error that is the only answer to a call is told as such, whatever data
are asked for (`MethodRegistry.TellsErrors.of_lenient`). A registration under the name of errors takes that
away (`MethodRegistry.not_tellsErrors_of_strict`), and nothing else that may be registered does
(`Registry.tellsErrors_after_iff`).
-/

namespace JmapClient

open Json

variable {S : Schema}

/-! ### The only answer to a call -/

namespace Response

section Only

variable {r : Response S} {i : Invocation (Payload S)} {before after : List (Invocation (Payload S))}
  {t : PayloadType S}

theorem answersTo_of_only (hr : r.answers = before ++ i :: after) (hbefore : ∀ j ∈ before, j.callId ≠ i.callId)
    (hafter : ∀ j ∈ after, j.callId ≠ i.callId) : r.answersTo i.callId = [i] := by
  have hnone {js : List (Invocation (Payload S))} (h : ∀ j ∈ js, j.callId ≠ i.callId) :
      js.filter (·.callId == i.callId) = [] := by
    rw [List.filter_eq_nil_iff]
    intro j hj heq
    exact h j hj (by simpa using heq)
  rw [answersTo, hr, List.filter_append, hnone hbefore, List.nil_append, List.filter_cons,
    if_pos (beq_self_eq_true _), hnone hafter]

theorem get_eq_ok_of_only (hr : r.answers = before ++ i :: after)
    (hbefore : ∀ j ∈ before, j.callId ≠ i.callId) (hafter : ∀ j ∈ after, j.callId ≠ i.callId) {d : t.Data}
    (hd : i.content = ⟨t, d⟩) : r.get t i.callId = .ok d :=
  get_of_content (answersTo_of_only hr hbefore hafter) hd

end Only

end Response

theorem Envelope.readText_of_tree {body : List UInt8} {items : List Tree} {state : String}
    (h : Tree.ofBytes body =
      .ok (.object [("methodResponses", .array items), ("sessionState", .string state)])) :
    (readText body : Except Problem Envelope) = .ok ⟨items.map .ofTree, none, state⟩ := by
  refine (readText_eq_ok_iff h).2 (Envelope.read_object_draft_eq_ok_iff.2 ⟨?_, ?_⟩)
  · simp [Record.given, Envelope.names]
  · exact ⟨⟨_, rfl, read_values_draft items⟩, Or.inl ⟨rfl, rfl⟩, Or.inr ⟨_, rfl, rfl⟩⟩

/-- Whatever stands under `errorName` in place of the only answer to a call, among elements that are decoded, all that
can be got for the call is the error, which is listed. -/
def MethodRegistry.TellsErrors (methods : MethodRegistry S) : Prop :=
  ∀ (body : List UInt8) (e : Envelope) (before after : List Value) (v : Value) (callId : String),
    readText body = .ok e →
    e.elements = before ++ (⟨errorName, v, callId⟩ : Invocation Value).value :: after →
    (∀ u ∈ before ++ after, ∃ i, Invocation.ofValue methods u = .ok i ∧ i.callId ≠ callId) →
    ∃ r, Response.ofBytes methods body = .ok r ∧
      (∀ t, t ≠ .methodError → r.get t callId = .error (.method (.ofValue v))) ∧
      r.get .methodError callId = .ok (.ofValue v) ∧ (callId, .ofValue v) ∈ r.methodErrors

namespace MethodRegistry

variable {methods : MethodRegistry S}

theorem TellsErrors.of_lenient (h : methods.decoders.find? errorName = some .lenient) :
    methods.TellsErrors := by
  intro body e before after v callId hread helements hothers
  let i : Invocation (Payload S) := ⟨errorName, ⟨.methodError, .ofValue v⟩, callId⟩
  have hi : Invocation.ofValue methods (⟨errorName, v, callId⟩ : Invocation Value).value = .ok i := by
    have hdecode : methods.decode errorName callId v = .ok i.content :=
      decode_eq_ok_iff.2 ⟨.lenient, h, rfl⟩
    rw [Invocation.ofValue_value, hdecode, map_ok]
  -- The other answers are decoded as invocations with other ids.
  have hdecoded : ∀ us : List Value, (∀ u ∈ us, u ∈ before ++ after) → ∃ js,
      List.Forall₂ (fun u j => Invocation.ofValue methods u = .ok j) us js ∧ ∀ j ∈ js, j.callId ≠ callId := by
    intro us hus
    obtain ⟨js, hjs⟩ := exists_mapM_eq_ok_iff.2 fun u hu => (hothers u (hus u hu)).imp fun j hj => hj.1
    rw [mapM_eq_ok_iff] at hjs
    refine ⟨js, hjs, fun j hj => ?_⟩
    obtain ⟨u, hu, huj⟩ := exists_mem_of_forall₂ hjs.flip hj
    obtain ⟨j', hj', hne⟩ := hothers u (hus u hu)
    obtain rfl := Except.ok.inj (huj.symm.trans hj')
    exact hne
  obtain ⟨is, his, hisne⟩ := hdecoded before fun u hu => List.mem_append_left _ hu
  obtain ⟨js, hjs, hjsne⟩ := hdecoded after fun u hu => List.mem_append_right _ hu
  let r : Response S := ⟨is ++ i :: js, e.createdIds, e.sessionState⟩
  have hr : Response.ofBytes methods body = .ok r := by
    rw [Response.ofBytes_of_readText hread, Response.ofEnvelope_eq_ok_iff]
    refine ⟨rfl, rfl, ?_⟩
    rw [helements]
    exact (List.rel_append his (.cons hi hjs)).imp fun u j => Invocation.isDecoded_iff.2
  refine ⟨r, hr, fun t ht => ?_, Response.get_eq_ok_of_only (i := i) (t := .methodError) rfl hisne hjsne rfl, ?_⟩
  · exact Response.get_of_failsWith (Response.answersTo_of_only (i := i) rfl hisne hjsne) ⟨rfl, rfl⟩ ht
  · refine List.mem_filterMap.2 ⟨i, by simp [r], ?_⟩
    rw [Invocation.error?_eq_some_iff.2 ⟨rfl, rfl⟩, Option.map_some]

/-- An error that tells nothing is not decoded as a well-formed `MethodError`, and as anything else it is data. -/
theorem not_tellsErrors_of_strict {t : PayloadType S} (h : methods.decoders.find? errorName = some (.strict t)) :
    ¬ methods.TellsErrors := by
  intro htells
  have hbody : Tree.ofBytes (Utf8.encode
      "\x7b\"methodResponses\":[[\"error\",null,\"0\"]],\"sessionState\":\"s\"\x7d") =
      .ok (.object [("methodResponses", .array [.array [.string "error", .null, .string "0"]]),
        ("sessionState", .string "s")]) := by
    rw [Utf8.encode_eq_data]
    decide +kernel
  have hread := Envelope.readText_of_tree hbody
  obtain ⟨r, hr, hget, -, -⟩ := htells _ _ [] [] .null "0" hread rfl (by simp)
  rw [Response.ofBytes_of_readText hread] at hr
  obtain ⟨-, -, hanswers⟩ := Response.ofEnvelope_eq_ok_iff.1 hr
  obtain ⟨i, is, hi, hnil, hr⟩ := List.forall₂_cons_left_iff.1 hanswers
  obtain rfl := List.forall₂_nil_left_iff.1 hnil
  have hdecoded : Invocation.ofValue methods (⟨errorName, .null, "0"⟩ : Invocation Value).value = .ok i :=
    Invocation.isDecoded_iff.1 hi
  rw [Invocation.ofValue_value] at hdecoded
  obtain ⟨p, hp, rfl⟩ := map_eq_ok_iff.1 hdecoded
  obtain ⟨decoder, hdecoder, hp⟩ := decode_eq_ok_iff.1 hp
  obtain rfl := Option.some.inj (h.symm.trans hdecoder)
  obtain ⟨d, hd, rfl⟩ := map_eq_ok_iff.1 hp
  by_cases ht : t = .methodError
  · subst ht
    obtain ⟨m, hm⟩ := MethodError.eq_ofMap_of_read hd
    exact nomatch congrArg Value.tree hm
  · have honly : r.answers = [] ++ ⟨errorName, ⟨t, d⟩, "0"⟩ :: [] := hr
    have hdata : r.get t "0" = .ok d := Response.get_eq_ok_of_only honly (by simp) (by simp) rfl
    rw [hget t ht] at hdata
    cases hdata

end MethodRegistry

/-! ### Registries that are filled by registrations -/

namespace Registry

theorem find?_errorName_after {r : Registry S} (h : r.methods.decoders.find? errorName = some .lenient)
    (rs : List (Registration S)) :
    ((∀ t, .method errorName t ∉ rs) → (r.after rs).methods.decoders.find? errorName = some .lenient) ∧
      ∀ t, .method errorName t ∈ rs →
        ∃ u, (r.after rs).methods.decoders.find? errorName = some (.strict u) := by
  rw [find?_after, h]
  cases hlookup : (rs.flatMap Registration.bindings).reverse.lookup errorName with
  | none =>
    refine ⟨fun _ => rfl, fun t ht => ?_⟩
    have hmem : (errorName, t) ∈ rs.flatMap Registration.bindings :=
      List.mem_flatMap.2 ⟨_, ht, Registration.bindings_errorName.2 rfl⟩
    have hne := List.lookup_eq_none_iff.1 hlookup _ (List.mem_reverse.2 hmem)
    simp at hne
  | some u =>
    refine ⟨fun hrs => ?_, fun _ _ => ⟨u, rfl⟩⟩
    obtain ⟨l₁, l₂, hsplit, -⟩ := List.lookup_eq_some_iff.1 hlookup
    have hmem : (errorName, u) ∈ rs.flatMap Registration.bindings := by
      rw [← List.mem_reverse, hsplit]
      simp
    obtain ⟨reg, hreg, hbinds⟩ := List.mem_flatMap.1 hmem
    rw [Registration.bindings_errorName.1 hbinds] at hreg
    exact absurd hreg (hrs u)

theorem tellsErrors_iff {r : Registry S} (h : r.methods.decoders.find? errorName = some .lenient)
    (rs : List (Registration S)) :
    (r.after rs).methods.TellsErrors ↔ ∀ t, .method errorName t ∉ rs := by
  obtain ⟨hlenient, hstrict⟩ := find?_errorName_after h rs
  constructor
  · intro htells t ht
    obtain ⟨u, hu⟩ := hstrict t ht
    exact MethodRegistry.not_tellsErrors_of_strict hu htells
  · exact fun hrs => .of_lenient (hlenient hrs)

/-- Whatever is registered with an `empty` registry or with that of the `core` capability, errors are told for what they
are (`TellsErrors`) if and only if nothing is registered under their name. -/
theorem tellsErrors_after_iff (rs : List (Registration S)) :
    (((empty (S := S)).after rs).methods.TellsErrors ↔ ∀ t, .method errorName t ∉ rs) ∧
      (((core (S := S)).after rs).methods.TellsErrors ↔ ∀ t, .method errorName t ∉ rs) :=
  ⟨tellsErrors_iff (SortedMap.find?_insert_self _ _ _) rs, tellsErrors_iff find?_core_error rs⟩

/-- An error that is a number, behind the answer to another call. -/
theorem tellsErrors_after_iff_of_number :
    let rs : List (Registration Schema.core) := [.method "x/y" .echo, .method Echo.methodName .blobCopy]
    let body := Utf8.encode <|
      "\x7b\"methodResponses\":[[\"x/y\",\x7b\x7d,\"0\"],[\"error\",5,\"1\"]],\"sessionState\":\"s\"\x7d"
    ∃ r, Response.ofBytes (core.after rs).methods body = .ok r ∧
      r.get .echo "1" = .error (.method (.ofValue (.ofTree (.number (.int 5))))) := by
  intro rs body
  have hbody : Tree.ofBytes body = .ok (.object [("methodResponses",
      .array [.array [.string "x/y", .object [], .string "0"],
        .array [.string "error", .number (.int 5), .string "1"]]),
      ("sessionState", .string "s")]) := by
    simp only [body, Utf8.encode_eq_data]
    decide +kernel
  have hfind : (core.after rs).methods.decoders.find? "x/y" = some (.strict .echo) := by
    rw [find?_after]
    rfl
  have hother : Invocation.ofValue (core.after rs).methods (⟨"x/y", .ofMap ∅, "0"⟩ : Invocation Value).value =
      .ok ⟨"x/y", ⟨.echo, (⟨∅⟩ : Echo)⟩, "0"⟩ := by
    rw [Invocation.ofValue_value, MethodRegistry.decode_eq_ok_iff.2 ⟨_, hfind, decode_strict_echo ∅⟩, map_ok]
  have htells := (tellsErrors_after_iff rs).2.2 fun t ht => by
    simp [rs, errorName, Echo.methodName] at ht
  obtain ⟨r, hr, hget, -⟩ := htells body _ [_] [] (.ofTree (.number (.int 5))) "1"
    (Envelope.readText_of_tree hbody) rfl
    (by
      intro u hu
      obtain rfl := List.mem_singleton.1 hu
      exact ⟨_, hother, by simp⟩)
  exact ⟨r, hr, hget .echo (by simp)⟩

/-- Where errors are registered as echoes, an error is taken for an `Echo`. And an answer that cannot be decoded takes
an error with it. -/
theorem not_tellsErrors :
    let told := Utf8.encode "\x7b\"methodResponses\":[[\"error\",\x7b\x7d,\"0\"]],\"sessionState\":\"s\"\x7d"
    let mixed := Utf8.encode <|
      "\x7b\"methodResponses\":[[\"error\",\x7b\x7d,\"0\"],[\"x/y\",\x7b\x7d,\"1\"]],\"sessionState\":\"s\"\x7d"
    (∃ r, Response.ofBytes ((core (S := Schema.core)).after [.method errorName .echo]).methods told = .ok r ∧
      r.get .echo "0" = .ok (⟨∅⟩ : Echo) ∧ r.methodErrors = []) ∧
    Response.ofBytes (core (S := Schema.core)).methods mixed = .error (.unknownMethod "x/y") := by
  intro told mixed
  have htold : Tree.ofBytes told = .ok (.object [("methodResponses",
      .array [.array [.string "error", .object [], .string "0"]]), ("sessionState", .string "s")]) := by
    simp only [told, Utf8.encode_eq_data]
    decide +kernel
  have hmixed : Tree.ofBytes mixed = .ok (.object [("methodResponses",
      .array [.array [.string "error", .object [], .string "0"],
        .array [.string "x/y", .object [], .string "1"]]),
      ("sessionState", .string "s")]) := by
    simp only [mixed, Utf8.encode_eq_data]
    decide +kernel
  constructor
  · have hfind : ((core (S := Schema.core)).after [.method errorName .echo]).methods.decoders.find? errorName =
        some (.strict .echo) := by
      rw [find?_after]
      rfl
    refine ⟨⟨[⟨errorName, ⟨.echo, (⟨∅⟩ : Echo)⟩, "0"⟩], none, "s"⟩, ?_, rfl, rfl⟩
    rw [Response.ofBytes_of_readText (Envelope.readText_of_tree htold), Response.ofEnvelope_eq_ok_iff]
    refine ⟨rfl, rfl, .cons (Invocation.isDecoded_iff.2 ?_) .nil⟩
    refine (Invocation.ofValue_value _ ⟨errorName, .ofMap ∅, "0"⟩).trans ?_
    rw [MethodRegistry.decode_eq_ok_iff.2 ⟨_, hfind, decode_strict_echo ∅⟩, map_ok]
  · rw [Response.ofBytes_of_readText (Envelope.readText_of_tree hmixed), Response.ofEnvelope_eq_error_iff,
      mapM_eq_error_iff]
    refine ⟨[_], _, [], rfl, ?_, ?_⟩
    · intro u hu
      obtain rfl := List.mem_singleton.1 hu
      refine ⟨⟨errorName, ⟨.methodError, .ofValue (.ofMap ∅)⟩, "0"⟩, ?_⟩
      refine (Invocation.ofValue_value _ ⟨errorName, .ofMap ∅, "0"⟩).trans ?_
      rw [decode_core_error, map_ok]
    · refine (Invocation.ofValue_value _ ⟨"x/y", .ofMap ∅, "1"⟩).trans ?_
      rw [MethodRegistry.decode_of_contains_eq_false (by decide +kernel), map_error]

end Registry

end JmapClient
