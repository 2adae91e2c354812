import JmapClient.Proofs.Json.Members
import JmapClient.Proofs.RoundTrip

/-!
# Decoding one element

Every JSON value is decoded as an invocation or refused, and its form tells which (`Invocation.ofValue_exact`). What
was decoded is written again as the element that it was, but for its content, of which it depends whether anything
is written (`Invocation.toValue_eq_ok_iff`).
-/

namespace JmapClient

open Json

variable {S : Schema}

/-! ### Reading lists and strings -/

theorem read_values_eq_ok_iff_items? {v : Value} {vs : List Value} :
    (v.read : Except Problem (List Value)) = .ok vs ↔ v.items? = some vs := by
  rw [read_values_eq_ok_iff, Value.items?_eq_some_iff]
  constructor
  · intro h
    have hitems : v.items? = some vs := by
      rw [h, Value.items?_ofTree_array, List.map_map]
      simp [Function.comp_def]
    exact Value.items?_eq_some_iff.1 hitems
  · intro h
    rw [← h, Value.ofTree_tree]

theorem read_string_eq_ok_iff_string? {v : Value} {s : String} :
    (v.read : Except Problem String) = .ok s ↔ v.string? = some s := by
  rw [read_string_eq_ok_iff, Value.string?_eq_some_iff]

/-- Where `x` has nothing to be read, the reading fails. -/
theorem exists_ofProblem_eq_json {α : Type} {x : Except Problem α} {o : Option α}
    (h : ∀ {a}, x = .ok a ↔ o = some a) (ho : o = none) : ∃ p, Error.ofProblem x = .error (.json p) := by
  cases x with
  | error p => exact ⟨p, rfl⟩
  | ok a =>
    have hsome : o = some a := h.1 rfl
    rw [ho] at hsome
    cases hsome

namespace Invocation

/-! ### Decoding -/

section

variable (methods : MethodRegistry S) {v a b c : Value} {name callId : String}

theorem ofValue_of_items?_eq_none (h : v.items? = none) : ∃ p, ofValue methods v = .error (.json p) := by
  obtain ⟨p, hp⟩ := exists_ofProblem_eq_json read_values_eq_ok_iff_items? h
  exact ⟨p, by rw [ofValue, hp, error_bind]⟩

theorem ofValue_of_length_ne {vs : List Value} (h : v.items? = some vs) (hlength : vs.length ≠ 3) :
    ofValue methods v = .error (.malformedInvocation vs.length) := by
  rw [ofValue, Error.ofProblem_eq_ok_iff.2 (read_values_eq_ok_iff_items?.2 h), ok_bind]
  match vs with
  | [] | [_] | [_, _] | _ :: _ :: _ :: _ :: _ => rfl
  | [_, _, _] => exact absurd rfl hlength

theorem ofValue_of_items? (h : v.items? = some [a, b, c]) :
    ofValue methods v = (do
      let name ← Error.ofProblem (a.read (α := String))
      let callId ← Error.ofProblem (c.read (α := String))
      let payload ← methods.decode name callId b
      return ⟨name, payload, callId⟩) := by
  rw [ofValue, Error.ofProblem_eq_ok_iff.2 (read_values_eq_ok_iff_items?.2 h), ok_bind]

/-- Name and id are read before anything is looked up. -/
theorem ofValue_of_string?_eq_none (h : v.items? = some [a, b, c]) (hs : a.string? = none ∨ c.string? = none) :
    ∃ p, ofValue methods v = .error (.json p) := by
  rw [ofValue_of_items? methods h]
  rcases ha : a.string? with _ | name
  · obtain ⟨p, hp⟩ := exists_ofProblem_eq_json read_string_eq_ok_iff_string? ha
    exact ⟨p, by rw [hp, error_bind]⟩
  · have hc : c.string? = none := hs.resolve_left (by simp [ha])
    obtain ⟨p, hp⟩ := exists_ofProblem_eq_json read_string_eq_ok_iff_string? hc
    rw [Error.ofProblem_eq_ok_iff.2 (read_string_eq_ok_iff_string?.2 ha), ok_bind, hp]
    exact ⟨p, rfl⟩

theorem ofValue_of_string? (h : v.items? = some [a, b, c]) (ha : a.string? = some name)
    (hc : c.string? = some callId) :
    ofValue methods v = (methods.decode name callId b).map fun payload => ⟨name, payload, callId⟩ := by
  rw [ofValue_of_items? methods h, Error.ofProblem_eq_ok_iff.2 (read_string_eq_ok_iff_string?.2 ha), ok_bind,
    Error.ofProblem_eq_ok_iff.2 (read_string_eq_ok_iff_string?.2 hc), ok_bind]
  cases methods.decode name callId b <;> rfl

end

/-! ### Writing -/

theorem items?_value (i : Invocation Value) :
    i.value.items? = some [.ofTree (.string i.name), i.content, .ofTree (.string i.callId)] := by
  rw [value, Value.items?_ofTree_array]
  simp

theorem toValue_eq_ok_iff {α : Type} [Writable α] {i : Invocation α} {u : Value} :
    toValue i = .ok u ↔ ∃ content, toValue i.content = .ok content ∧
      (⟨i.name, content, i.callId⟩ : Invocation Value).value = u := by
  simp only [toValue, map_eq_ok_iff, write_eq_ok_iff]
  constructor
  · rintro ⟨_, ⟨t, ht, rfl⟩, rfl⟩
    exact ⟨_, ⟨t, ht, rfl⟩, (ofTree_array _ _ _).symm⟩
  · rintro ⟨_, ⟨t, ht, rfl⟩, rfl⟩
    exact ⟨_, ⟨t, ht, rfl⟩, ofTree_array _ _ _⟩

/-! ### Both -/

/-- The cause of each refusal by `ofValue` in its order, and what is decoded otherwise. An invocation is written if
its `content` is, as the element itself where that is written as it was. -/
theorem ofValue_exact (methods : MethodRegistry S) (v : Value) :
    (v.items? = none → ∃ p, ofValue methods v = .error (.json p)) ∧
    (∀ vs, v.items? = some vs → vs.length ≠ 3 → ofValue methods v = .error (.malformedInvocation vs.length)) ∧
    (∀ a b c, v.items? = some [a, b, c] →
      (a.string? = none ∨ c.string? = none → ∃ p, ofValue methods v = .error (.json p)) ∧
      ∀ name callId, a.string? = some name → c.string? = some callId →
        (methods.contains name = false → ofValue methods v = .error (.unknownMethod name)) ∧
        (methods.decoders.find? name = some .lenient →
          ofValue methods v = .ok ⟨name, ⟨.methodError, MethodError.ofValue b⟩, callId⟩) ∧
        ∀ t, methods.decoders.find? name = some (.strict t) →
          (∀ p, (b.read : Except Problem t.Data) = .error p →
            ofValue methods v = .error (.undecodableArguments name callId p)) ∧
          ∀ d, (b.read : Except Problem t.Data) = .ok d → ofValue methods v = .ok ⟨name, ⟨t, d⟩, callId⟩) ∧
    ∀ i, ofValue methods v = .ok i → ∃ a b c, v.items? = some [a, b, c] ∧
      ((∃ u, toValue i = .ok u) ↔ ∃ content, toValue i.content = .ok content) ∧
      ∀ u, toValue i = .ok u → ∃ content, toValue i.content = .ok content ∧
        u.items? = some [a, content, c] ∧ (content = b → u = v) := by
  refine ⟨ofValue_of_items?_eq_none methods, fun vs => ofValue_of_length_ne methods, fun a b c h =>
    ⟨ofValue_of_string?_eq_none methods h, fun name callId ha hc => ?_⟩, fun i hi => ?_⟩
  · rw [ofValue_of_string? methods h ha hc]
    refine ⟨fun hcontains => ?_, fun hfind => ?_, fun t hfind => ⟨fun p hp => ?_, fun d hd => ?_⟩⟩
    · rw [MethodRegistry.decode_of_contains_eq_false hcontains, map_error]
    · simp only [MethodRegistry.decode, hfind, AnswerDecoder.decode, map_ok]
    · simp only [MethodRegistry.decode, hfind, AnswerDecoder.decode, hp, map_error]
    · simp only [MethodRegistry.decode, hfind, AnswerDecoder.decode, hd, map_ok]
  · obtain ⟨content, rfl, -⟩ := ofValue_eq_ok_iff.1 hi
    refine ⟨_, _, _, items?_value _, ?_, fun u hu => ?_⟩
    · simp [toValue_eq_ok_iff]
    · obtain ⟨content', hcontent', rfl⟩ := toValue_eq_ok_iff.1 hu
      refine ⟨content', hcontent', items?_value _, fun heq => ?_⟩
      rw [heq]

/-- Of several faults of an element the first one is told, in this order: its id, its name, its content. -/
theorem ofValue_exact_of_faults :
    let methods := (Registry.core (S := Schema.core)).methods
    (∃ p, ofValue methods (.ofTree (.array [.string "x/y", .null, .number (.int 5)])) = .error (.json p)) ∧
    ofValue methods (.ofTree (.array [.string "x/y", .null, .string "0"])) = .error (.unknownMethod "x/y") ∧
    ∃ p, ofValue methods (.ofTree (.array [.string Echo.methodName, .null, .string "0"])) =
      .error (.undecodableArguments Echo.methodName "0" p) := by
  intro methods
  refine ⟨?_, ?_, ?_⟩
  · obtain ⟨-, -, hthree, -⟩ := ofValue_exact methods (.ofTree (.array [.string "x/y", .null, .number (.int 5)]))
    exact (hthree _ _ _ (Value.items?_ofTree_array _)).1 (Or.inr rfl)
  · obtain ⟨-, -, hthree, -⟩ := ofValue_exact methods (.ofTree (.array [.string "x/y", .null, .string "0"]))
    exact ((hthree _ _ _ (Value.items?_ofTree_array _)).2 _ _ rfl rfl).1 (by decide +kernel)
  · obtain ⟨-, -, hthree, -⟩ :=
      ofValue_exact methods (.ofTree (.array [.string Echo.methodName, .null, .string "0"]))
    obtain ⟨-, -, hstrict⟩ := (hthree _ _ _ (Value.items?_ofTree_array _)).2 _ _ rfl rfl
    exact ⟨_, (hstrict .echo find?_core_echo).1 _ rfl⟩

/-- A copy is decoded although the account that it is from has an empty id, and with that it is not written. -/
theorem toValue_ne_ok_of_copy :
    ∃ i, ofValue (Registry.core (S := Schema.core)).methods (.ofTree (.array [.string "Blob/copy",
        .object [("fromAccountId", .string ""), ("accountId", .string "a")], .string "0"])) = .ok i ∧
      ∀ u, toValue i ≠ .ok u := by
  have h : (ofValue (Registry.core (S := Schema.core)).methods (.ofTree (.array [.string "Blob/copy",
      .object [("fromAccountId", .string ""), ("accountId", .string "a")], .string "0"]))).toOption.map
        (fun i => (toValue i).toOption.isSome) = some false := by
    decide +kernel
  obtain ⟨i, hi, hnone⟩ := toOption_map_eq_some_iff.1 h
  refine ⟨i, hi, fun u hu => ?_⟩
  rw [hu] at hnone
  cases hnone

end Invocation

end JmapClient
