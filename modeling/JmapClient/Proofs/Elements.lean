import JmapClient.Proofs.Decoding
import JmapClient.Proofs.Utf8

/-!
# Elements of answers

An answer is decoded element by element, all of them or none (`Response.ofBytes_elementwise`): each
invocation stands where its element stood, and the first element that cannot be decoded decides the error.
-/

namespace JmapClient

open Json

variable {S : Schema}

/-- The invocation `i` that an element is decoded as has the element's own name and id. -/
def Invocation.IsDecoded (methods : MethodRegistry S) (v : Value) (i : Invocation (Payload S)) : Prop :=
  ofValue methods v = .ok i ∧
    ∃ content, v = (⟨i.name, content, i.callId⟩ : Invocation Value).value ∧
      methods.decode i.name i.callId content = .ok i.content

theorem Invocation.isDecoded_iff {methods : MethodRegistry S} {v : Value} {i : Invocation (Payload S)} :
    IsDecoded methods v i ↔ ofValue methods v = .ok i :=
  ⟨fun h => h.1, fun h => ⟨h, ofValue_eq_ok_iff.1 h⟩⟩

/-- Only what is registered in `methods` is decoded. -/
theorem Invocation.contains_of_ofValue {methods : MethodRegistry S} {name : String} {rest : List Tree}
    {i : Invocation (Payload S)} (h : ofValue methods (.ofTree (.array (.string name :: rest))) = .ok i) :
    methods.contains name = true := by
  obtain ⟨content, hvalue, hdecode⟩ := ofValue_eq_ok_iff.1 h
  have htree : (Tree.array (.string name :: rest)).normalize =
      (Tree.array [.string i.name, content.tree, .string i.callId]).normalize :=
    congrArg Value.tree hvalue
  simp only [Tree.normalize, Tree.normalizeAll, Tree.array.injEq, List.cons.injEq,
    Tree.string.injEq] at htree
  obtain ⟨decoder, hfind, -⟩ := MethodRegistry.decode_eq_ok_iff.1 hdecode
  rw [MethodRegistry.contains, SortedMap.contains_eq_isSome_find?, htree.1, hfind]
  rfl

namespace Response

theorem ofEnvelope_eq_ok_iff {methods : MethodRegistry S} {e : Envelope} {r : Response S} :
    ofEnvelope methods e = .ok r ↔
      r.createdIds = e.createdIds ∧ r.sessionState = e.sessionState ∧
        List.Forall₂ (Invocation.IsDecoded methods) e.elements r.answers := by
  simp only [ofEnvelope, bind_eq_ok_iff, mapM_eq_ok_iff, pure_eq_ok, Except.ok.injEq,
    ← Invocation.isDecoded_iff]
  constructor
  · rintro ⟨answers, hanswers, rfl⟩
    exact ⟨rfl, rfl, hanswers⟩
  · rintro ⟨hids, hstate, hanswers⟩
    exact ⟨r.answers, hanswers, by rw [← hids, ← hstate]⟩

theorem ofEnvelope_eq_error_iff {methods : MethodRegistry S} {e : Envelope} {error : Error} :
    ofEnvelope methods e = .error error ↔ e.elements.mapM (Invocation.ofValue methods) = .error error := by
  unfold ofEnvelope
  cases e.elements.mapM (Invocation.ofValue methods) <;> simp

theorem exists_ofEnvelope_eq_ok_iff {methods : MethodRegistry S} {e : Envelope} :
    (∃ r, ofEnvelope methods e = .ok r) ↔ ∀ v ∈ e.elements, ∃ i, Invocation.ofValue methods v = .ok i := by
  rw [← exists_mapM_eq_ok_iff, ofEnvelope]
  simp [bind_eq_ok_iff]

/-- An answer is decoded if and only if each element of its `Envelope` is, in its place and under its own name and id,
and else is refused with the error of the first that is not. -/
theorem ofBytes_elementwise (methods : MethodRegistry S) (body : List UInt8) :
    (∀ problem, (readText body : Except Problem Envelope) = .error problem →
      ofBytes methods body = .error (.json problem)) ∧
    ∀ e : Envelope, readText body = .ok e →
      ((∃ r, ofBytes methods body = .ok r) ↔
        ∀ v ∈ e.elements, ∃ i, Invocation.ofValue methods v = .ok i) ∧
      (∀ r, ofBytes methods body = .ok r ↔
        r.createdIds = e.createdIds ∧ r.sessionState = e.sessionState ∧
          List.Forall₂ (Invocation.IsDecoded methods) e.elements r.answers) ∧
      (∀ error, ofBytes methods body = .error error ↔
        ∃ earlier v later, e.elements = earlier ++ v :: later ∧
          (∀ u ∈ earlier, ∃ i, Invocation.ofValue methods u = .ok i) ∧
          Invocation.ofValue methods v = .error error) ∧
      ∀ name rest, methods.contains name = false →
        Value.ofTree (.array (.string name :: rest)) ∈ e.elements →
          ∃ error, ofBytes methods body = .error error := by
  constructor
  · intro problem hread
    rw [ofBytes, hread]
    rfl
  · intro e hread
    have hbody : ofBytes methods body = ofEnvelope methods e := by
      rw [ofBytes, hread]
      rfl
    rw [hbody]
    refine ⟨exists_ofEnvelope_eq_ok_iff, fun r => ofEnvelope_eq_ok_iff,
      fun error => ofEnvelope_eq_error_iff.trans mapM_eq_error_iff, fun name rest hname hmem => ?_⟩
    cases hresult : ofEnvelope methods e with
    | error error => exact ⟨error, rfl⟩
    | ok r =>
      obtain ⟨i, hi⟩ := exists_ofEnvelope_eq_ok_iff.1 ⟨r, hresult⟩ _ hmem
      rw [Invocation.contains_of_ofValue hi] at hname
      cases hname

/-- Of two elements that cannot be decoded the first decides. -/
theorem ofBytes_elementwise_of_faults :
    let body := Utf8.encode
      "\x7b\"methodResponses\":[[\"Core/echo\",\x7b\x7d,\"0\"],[\"x/y\",\x7b\x7d,\"1\"],[null]]\x7d"
    ofBytes (S := Schema.core) Registry.core.methods body = .error (.unknownMethod "x/y") := by
  intro body
  let first : Value := (⟨Echo.methodName, .ofMap ∅, "0"⟩ : Invocation Value).value
  let second : Value := (⟨"x/y", .ofTree (.object []), "1"⟩ : Invocation Value).value
  let third : Value := .ofTree (.array [.null])
  have htree : Tree.ofBytes body = .ok (.object [("methodResponses",
      .array [.array [.string "Core/echo", .object [], .string "0"],
        .array [.string "x/y", .object [], .string "1"],
        .array [.null]])]) := by
    simp only [body, Utf8.encode_eq_data]
    decide +kernel
  have hread : (readText body : Except Problem Envelope) = .ok ⟨[first, second, third], none, ""⟩ := by
    refine (readText_eq_ok_iff htree).2 (Envelope.read_object_draft_eq_ok_iff.2 ⟨by decide, ?_⟩)
    exact ⟨⟨_, rfl, read_values_draft _⟩, Or.inl ⟨rfl, rfl⟩, Or.inl ⟨rfl, rfl⟩⟩
  obtain ⟨-, -, herror, -⟩ := (ofBytes_elementwise Registry.core.methods body).2 _ hread
  refine (herror _).2 ⟨[first], second, [third], rfl, ?_, ?_⟩
  · intro u hu
    obtain rfl := List.mem_singleton.1 hu
    exact ⟨_, by rw [Invocation.ofValue_value, decode_core_echo, map_ok]⟩
  · rw [Invocation.ofValue_value, MethodRegistry.decode_of_contains_eq_false (by decide +kernel), map_error]

end Response

end JmapClient
