import JmapClient.Response
import JmapClient.Proofs.Except

/-!
# The answer that counts

A call may have several answers, of several types and between the answers to other calls. What is got for the
call is settled by the first of its answers that is of the type asked for or tells that the server failed
(`Invocation.Settles`): this datum or this error. Where no answer settles it, the name of the first one is told.
`Response.get_exact` says so for every outcome.
-/

namespace JmapClient

variable {S : Schema} {t : PayloadType S} {d : t.Data} {e : MethodError}

/-! ### One answer -/

namespace Invocation

variable {i : Invocation (Payload S)}

/-- Tells in place of an answer that the server failed, with `e`. -/
def FailsWith (i : Invocation (Payload S)) (e : MethodError) : Prop :=
  i.name = errorName ∧ i.content = ⟨.methodError, e⟩

/-- Is of type `t`, or tells that the server failed (`FailsWith`). -/
def Settles (t : PayloadType S) (i : Invocation (Payload S)) : Prop :=
  i.content.type = t ∨ ∃ e, i.FailsWith e

/-- What is got for a call if `i` is the answer that counts. -/
def settled? (t : PayloadType S) (i : Invocation (Payload S)) : Option (Except Error t.Data) :=
  match i.content.as? t with
  | some d => some (.ok d)
  | none => i.error?.map fun e => .error (.method e)

theorem error?_eq_some_iff : i.error? = some e ↔ i.FailsWith e := by
  constructor
  · intro h
    by_cases hname : i.isError = true
    · exact ⟨beq_iff_eq.1 hname, Payload.as?_eq_some_iff.1 ((if_pos hname).symm.trans h)⟩
    · cases (if_neg hname).symm.trans h
  · rintro ⟨hname, he⟩
    have hisError : i.isError = true := beq_iff_eq.2 hname
    exact (if_pos hisError).trans (Payload.as?_eq_some_iff.2 he)

theorem as?_eq_none_iff : i.content.as? t = none ↔ i.content.type ≠ t := by
  unfold Payload.as?
  split_ifs with h <;> simp [h]

theorem settled?_eq_ok_iff : i.settled? t = some (.ok d) ↔ i.content = ⟨t, d⟩ := by
  rw [← Payload.as?_eq_some_iff, settled?]
  cases i.content.as? t <;> simp

theorem settled?_eq_error_iff {err : Error} :
    i.settled? t = some (.error err) ↔ ∃ e, err = .method e ∧ i.content.type ≠ t ∧ i.FailsWith e := by
  simp only [← as?_eq_none_iff, ← error?_eq_some_iff, settled?]
  cases i.content.as? t with
  | some d => simp
  | none => cases i.error? <;> simp [eq_comm]

theorem settled?_eq_none_iff : i.settled? t = none ↔ ¬ i.Settles t := by
  have herror : i.error? = none ↔ ¬ ∃ e, i.FailsWith e := by
    simp only [← error?_eq_some_iff, ← Option.isSome_iff_exists, Option.not_isSome_iff_eq_none]
  rw [Settles, not_or, ← herror, ← ne_eq, ← as?_eq_none_iff, settled?]
  cases i.content.as? t <;> simp

end Invocation

/-! ### All answers to a call -/

namespace Response

variable {r : Response S} {callId : String}

/-- The answers to the call `callId`, in their order. -/
def answersTo (r : Response S) (callId : String) : List (Invocation (Payload S)) :=
  r.answers.filter (·.callId == callId)

/-- Why there is nothing to get for the call `callId` if no answer settles it. -/
def unsettled (r : Response S) (callId : String) : Error :=
  match r.answersTo callId with
  | [] => .missingResponse callId
  | i :: _ => .unexpectedResponse callId i.name

theorem firstOf_eq_findSome? (t : PayloadType S) (is : List (Invocation (Payload S))) :
    firstOf t is = is.findSome? (·.settled? t) := by
  induction is with
  | nil => rfl
  | cons i is ih =>
    rw [firstOf, List.findSome?_cons, ih, Invocation.settled?]
    cases i.content.as? t with
    | some d => rfl
    | none => cases i.error? <;> rfl

theorem get_eq_getD :
    r.get t callId = ((r.answersTo callId).findSome? (·.settled? t)).getD (.error (r.unsettled callId)) := by
  rw [← firstOf_eq_findSome?]
  unfold get unsettled answersTo
  cases r.answers.filter (·.callId == callId) <;> rfl

/-- The first of the answers to a call that `Settles` what is got for it. -/
def FirstSettling (r : Response S) (t : PayloadType S) (callId : String) (i : Invocation (Payload S)) : Prop :=
  ∃ earlier later, r.answersTo callId = earlier ++ i :: later ∧ i.Settles t ∧ ∀ k ∈ earlier, ¬ k.Settles t

/-- Among all answers it stands where no answer to the same call settles what is got before. -/
theorem firstSettling_iff {i : Invocation (Payload S)} :
    r.FirstSettling t callId i ↔ ∃ earlier later, r.answers = earlier ++ i :: later ∧ i.callId = callId ∧
      i.Settles t ∧ ∀ k ∈ earlier, k.callId = callId → ¬ k.Settles t := by
  constructor
  · rintro ⟨before, after, hsplit, hi, hbefore⟩
    obtain ⟨front, back, hanswers, hfront, hback⟩ := List.filter_eq_append_iff.1 hsplit
    obtain ⟨between, rest, rfl, hbetween, hid, -⟩ := List.filter_eq_cons_iff.1 hback
    refine ⟨front ++ between, rest, by rw [hanswers, List.append_assoc], by simpa using hid, hi, ?_⟩
    intro k hk hcall
    rcases List.mem_append.1 hk with hk | hk
    · refine hbefore k ?_
      rw [← hfront]
      exact List.mem_filter.2 ⟨hk, by simpa using hcall⟩
    · exact absurd (by simpa using hcall) (hbetween k hk)
  · rintro ⟨earlier, later, hanswers, rfl, hi, hearlier⟩
    refine ⟨_, _, by rw [answersTo, hanswers, List.filter_append, List.filter_cons_of_pos (by simp)], hi, ?_⟩
    intro k hk
    obtain ⟨hk, hcall⟩ := List.mem_filter.1 hk
    exact hearlier k hk (beq_iff_eq.1 hcall)

theorem findSome?_settled?_eq_some_iff {x : Except Error t.Data} :
    (r.answersTo callId).findSome? (·.settled? t) = some x ↔
      ∃ i, r.FirstSettling t callId i ∧ i.settled? t = some x := by
  rw [List.findSome?_eq_some_iff]
  simp only [Invocation.settled?_eq_none_iff, FirstSettling]
  constructor
  · rintro ⟨earlier, i, later, hsplit, hi, hearlier⟩
    have hsettles : i.Settles t := by
      by_contra hnot
      rw [Invocation.settled?_eq_none_iff.2 hnot] at hi
      cases hi
    exact ⟨i, ⟨earlier, later, hsplit, hsettles, hearlier⟩, hi⟩
  · rintro ⟨i, ⟨earlier, later, hsplit, -, hearlier⟩, hi⟩
    exact ⟨earlier, i, later, hsplit, hi, hearlier⟩

theorem findSome?_settled?_eq_none_iff :
    (r.answersTo callId).findSome? (·.settled? t) = none ↔ ∀ i ∈ r.answersTo callId, ¬ i.Settles t := by
  simp only [List.findSome?_eq_none_iff, Invocation.settled?_eq_none_iff]

theorem get_eq_iff {x : Except Error t.Data} :
    r.get t callId = x ↔ (∃ i, r.FirstSettling t callId i ∧ i.settled? t = some x) ∨
      (∀ i ∈ r.answersTo callId, ¬ i.Settles t) ∧ .error (r.unsettled callId) = x := by
  rw [get_eq_getD, Option.getD_eq_iff, findSome?_settled?_eq_some_iff, findSome?_settled?_eq_none_iff]

theorem unsettled_ne_method : r.unsettled callId ≠ .method e := by
  unfold unsettled
  cases r.answersTo callId <;> simp

theorem get_eq_ok_iff :
    r.get t callId = .ok d ↔ ∃ i, r.FirstSettling t callId i ∧ i.content = ⟨t, d⟩ := by
  simp [get_eq_iff, Invocation.settled?_eq_ok_iff]

theorem get_eq_method_iff :
    r.get t callId = .error (.method e) ↔
      ∃ i, r.FirstSettling t callId i ∧ i.content.type ≠ t ∧ i.FailsWith e := by
  simp [get_eq_iff, Invocation.settled?_eq_error_iff, unsettled_ne_method]

theorem get_eq_missingResponse_iff {id : String} :
    r.get t callId = .error (.missingResponse id) ↔ id = callId ∧ r.answersTo callId = [] := by
  rw [get_eq_iff, unsettled]
  cases r.answersTo callId <;> simp [Invocation.settled?_eq_error_iff, eq_comm]

theorem get_eq_unexpectedResponse_iff {id name : String} :
    r.get t callId = .error (.unexpectedResponse id name) ↔
      id = callId ∧ (∀ i ∈ r.answersTo callId, ¬ i.Settles t) ∧
        ∃ i later, r.answersTo callId = i :: later ∧ name = i.name := by
  rw [get_eq_iff, unsettled]
  cases r.answersTo callId <;> simp [Invocation.settled?_eq_error_iff, eq_comm, and_left_comm]

/-! ### What follows -/

/-- A datum that is got answers the call, and no answer before it tells that the server failed. -/
theorem exists_answer_of_get_eq_ok (h : r.get t callId = .ok d) :
    ∃ earlier i later, r.answers = earlier ++ i :: later ∧ i.callId = callId ∧ i.content = ⟨t, d⟩ ∧
      ∀ k ∈ earlier, k.callId = callId → ∀ e, ¬ k.FailsWith e := by
  obtain ⟨i, hfirst, hi⟩ := get_eq_ok_iff.1 h
  obtain ⟨earlier, later, hanswers, hid, -, hearlier⟩ := firstSettling_iff.1 hfirst
  exact ⟨earlier, i, later, hanswers, hid, hi,
    fun k hk hcall e hfails => hearlier k hk hcall (Or.inr ⟨e, hfails⟩)⟩

/-- An error of the server that is told is one of those that are listed (`methodErrors`). -/
theorem mem_methodErrors_of_get (h : r.get t callId = .error (.method e)) : (callId, e) ∈ r.methodErrors := by
  obtain ⟨i, ⟨before, after, hsplit, -, -⟩, -, hfails⟩ := get_eq_method_iff.1 h
  have hmem : i ∈ r.answersTo callId := by
    rw [hsplit]
    simp
  obtain ⟨hi, hid⟩ := List.mem_filter.1 hmem
  refine List.mem_filterMap.2 ⟨i, hi, ?_⟩
  rw [Invocation.error?_eq_some_iff.2 hfails, Option.map_some, beq_iff_eq.1 hid]

/-- Where the first answer is of the type asked for, it is got. -/
theorem get_of_content {i : Invocation (Payload S)} {later : List (Invocation (Payload S))}
    (hanswers : r.answersTo callId = i :: later) (hd : i.content = ⟨t, d⟩) : r.get t callId = .ok d :=
  get_eq_ok_iff.2 ⟨i, ⟨[], later, hanswers, Or.inl (congrArg Payload.type hd), by simp⟩, hd⟩

/-- Where the first answer tells that the server failed, only the error itself is got. -/
theorem get_of_failsWith {i : Invocation (Payload S)} {later : List (Invocation (Payload S))}
    (hanswers : r.answersTo callId = i :: later) (hfails : i.FailsWith e) (ht : t ≠ .methodError) :
    r.get t callId = .error (.method e) := by
  refine get_eq_method_iff.2 ⟨i, ⟨[], later, hanswers, Or.inr ⟨e, hfails⟩, by simp⟩, ?_, hfails⟩
  rw [hfails.2]
  exact ht.symm

/-- What `get` gives is settled by the first answer to the call that is of the type asked for or tells a failure
(`FirstSettling`), and each of the four outcomes tells which answers there are. -/
theorem get_exact (r : Response S) (t : PayloadType S) (callId : String) :
    (∀ id, r.get t callId = .error (.missingResponse id) ↔ id = callId ∧ r.answersTo callId = []) ∧
    (∀ d, r.get t callId = .ok d ↔ ∃ i, r.FirstSettling t callId i ∧ i.content = ⟨t, d⟩) ∧
    (∀ e, r.get t callId = .error (.method e) ↔
      ∃ i, r.FirstSettling t callId i ∧ i.content.type ≠ t ∧ i.FailsWith e) ∧
    (∀ id name, r.get t callId = .error (.unexpectedResponse id name) ↔
      id = callId ∧ (∀ i ∈ r.answersTo callId, ¬ i.Settles t) ∧
        ∃ i later, r.answersTo callId = i :: later ∧ name = i.name) ∧
    (∀ d, r.get t callId = .ok d → ∃ earlier i later, r.answers = earlier ++ i :: later ∧
      i.callId = callId ∧ i.content = ⟨t, d⟩ ∧ ∀ k ∈ earlier, k.callId = callId → ∀ e, ¬ k.FailsWith e) ∧
    (∀ e, r.get t callId = .error (.method e) → (callId, e) ∈ r.methodErrors) ∧
    ∀ i later e, r.answersTo callId = i :: later → i.FailsWith e → t ≠ .methodError →
      r.get t callId = .error (.method e) :=
  ⟨fun _ => get_eq_missingResponse_iff, fun _ => get_eq_ok_iff, fun _ => get_eq_method_iff,
    fun _ _ => get_eq_unexpectedResponse_iff, fun _ => exists_answer_of_get_eq_ok,
    fun _ => mem_methodErrors_of_get, fun _ _ _ => get_of_failsWith⟩

/-- A call that the server fails at, after it answered another one and before it answers the call after all: only the
error is got, and it is listed. -/
theorem get_exact_of_failure_between_echoes :
    let failure : MethodError := ⟨"serverFail", none, ∅⟩
    let echo (callId : String) : Invocation (Payload .core) := ⟨Echo.methodName, ⟨.echo, Echo.empty⟩, callId⟩
    let r : Response .core := ⟨[echo "1", ⟨errorName, ⟨.methodError, failure⟩, "0"⟩, echo "0"], none, "s"⟩
    r.get .echo "0" = .error (.method failure) ∧ ("0", failure) ∈ r.methodErrors ∧
      r.get .echo "1" = .ok Echo.empty ∧ r.get .echo "2" = .error (.missingResponse "2") := by
  intro failure echo r
  obtain ⟨-, -, -, -, -, hlisted, hfirst⟩ := get_exact r .echo "0"
  have hget : r.get .echo "0" = .error (.method failure) := hfirst _ [echo "0"] failure rfl ⟨rfl, rfl⟩ (by decide)
  obtain ⟨-, hok, -⟩ := get_exact r .echo "1"
  obtain ⟨hmissing, -⟩ := get_exact r .echo "2"
  exact ⟨hget, hlisted failure hget,
    (hok _).2 ⟨echo "1", ⟨[], [], rfl, Or.inl rfl, by simp⟩, rfl⟩, (hmissing "2").2 ⟨rfl, rfl⟩⟩

end Response

end JmapClient
