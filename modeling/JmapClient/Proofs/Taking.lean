import JmapClient.Proofs.HandingOut

/-!
# Taking answers

Where every call has one answer, the answer to a call is found by its id alone, and taking it leaves the
answers to the other calls (`Response.take_of_mem`).
-/

namespace JmapClient

variable {S : Schema}

/-! ### Invocations with ids of their own -/

section Distinct

variable {α : Type} {is : List (Invocation α)} {i : Invocation α}

theorem eq_of_callId_eq (h : (is.map (·.callId)).Nodup) {j : Invocation α} (hi : i ∈ is) (hj : j ∈ is)
    (he : j.callId = i.callId) : j = i :=
  List.inj_on_of_nodup_map h hj hi he

theorem filter_callId (h : (is.map (·.callId)).Nodup) (hi : i ∈ is) :
    is.filter (·.callId == i.callId) = [i] := by
  have hmem : ∀ j, j ∈ is.filter (·.callId == i.callId) ↔ j = i := by
    intro j
    rw [List.mem_filter, beq_iff_eq]
    constructor
    · exact fun hj => eq_of_callId_eq h hi hj.1 hj.2
    · rintro rfl
      exact ⟨hi, rfl⟩
  have hnodup : (is.filter (·.callId == i.callId)).Nodup := h.of_map.filter _
  exact List.perm_singleton.1 ((List.perm_ext_iff_of_nodup hnodup (List.nodup_singleton i)).2
    fun j => by rw [hmem, List.mem_singleton])

/-- Without one of them there are the others left, which have other ids. -/
theorem filter_callId_ne {earlier later : List (Invocation α)}
    (h : ((earlier ++ i :: later).map (·.callId)).Nodup) :
    (earlier ++ i :: later).filter (·.callId != i.callId) = earlier ++ later := by
  rw [List.filter_append, List.filter_cons_of_neg (by simp), ← List.filter_append]
  exact List.filter_eq_self.2 fun k hk => by simpa using ne_of_nodup_middle h k hk

end Distinct

namespace Response

variable {r : Response S} {i : Invocation (Payload S)} {t : PayloadType S}

/-- To `take` the answer to a call leaves the answers to the others. -/
theorem take_of_mem (h : (r.answers.map (·.callId)).Nodup) (hi : i ∈ r.answers) {d : t.Data}
    (hd : i.content = ⟨t, d⟩) :
    r.take t i.callId = .ok (d, { r with answers := r.answers.filter (·.callId != i.callId) }) := by
  obtain ⟨earlier, later, hsplit⟩ := List.append_of_mem hi
  rw [hsplit] at h
  refine take_eq_ok_iff.2 ⟨i, ⟨earlier, later, hsplit, rfl, fun k hk hcall => ?_, ?_⟩, hd⟩
  · exact absurd hcall (ne_of_nodup_middle h k (List.mem_append_left _ hk))
  · rw [hsplit, filter_callId_ne h]

/-- Where the server failed at a call there is nothing of another type to take. -/
theorem take_of_error (h : (r.answers.map (·.callId)).Nodup) (hi : i ∈ r.answers) {e : MethodError}
    (ht : t ≠ .methodError) (hname : i.name = errorName) (he : i.content = ⟨.methodError, e⟩) :
    r.take t i.callId = .error (.method e) :=
  take_eq_error_iff.2 (get_of_failsWith (filter_callId h hi) ⟨hname, he⟩ ht)

/-- Takes the answers of type `t` to calls, one after the other. What cannot be taken is left. The second
part is what is left in the end. -/
def takeEach (t : PayloadType S) (r : Response S) :
    List String → List (Except Error t.Data) × Response S
  | [] => ([], r)
  | callId :: callIds =>
    match r.take t callId with
    | .ok (d, left) => (.ok d :: (left.takeEach t callIds).1, (left.takeEach t callIds).2)
    | .error e => (.error e :: (r.takeEach t callIds).1, (r.takeEach t callIds).2)

theorem takeEach_cons_of_ok {callId : String} {d : t.Data} {left : Response S}
    (h : r.take t callId = .ok (d, left)) (callIds : List String) :
    r.takeEach t (callId :: callIds) =
      (.ok d :: (left.takeEach t callIds).1, (left.takeEach t callIds).2) := by
  rw [takeEach, h]

theorem takeEach_cons_of_error {callId : String} {e : Error} (h : r.take t callId = .error e)
    (callIds : List String) :
    r.takeEach t (callId :: callIds) = (.error e :: (r.takeEach t callIds).1, (r.takeEach t callIds).2) := by
  rw [takeEach, h]

end Response

end JmapClient
