import JmapClient.Proofs.FirstAnswers
import Mathlib.Data.List.Nodup
import Mathlib.Data.List.ReduceOption

/-!
# Handing answers out

What is taken for a call is what is got for it, and the answer that settled it is gone then, and no other one
(`Response.take_eq_ok_iff`). `Response.takeOut` takes it out of the response itself and looks for it anew, by its
call and its type alone; that comes to the same (`Response.run_takeOut`), so the errors of its own never arise.
However many answers are taken, one after the other (`Response.takeAll`), no answer is handed out twice, and those
that are not handed out are left in their order (`Response.take_exact`).
-/

namespace JmapClient

variable {S : Schema}

/-- Answers the call `callId` with a datum of type `t`. -/
def Invocation.isAnswer (t : PayloadType S) (callId : String) (i : Invocation (Payload S)) : Bool :=
  i.callId == callId && i.content.hasType t

theorem Invocation.isAnswer_iff {t : PayloadType S} {callId : String} {i : Invocation (Payload S)} :
    i.isAnswer t callId = true ↔ i.callId = callId ∧ i.content.type = t := by
  simp [isAnswer, Payload.hasType]

/-- Where no two items have the same image, an item has another one than all the others. -/
theorem ne_of_nodup_middle {α β : Type} {f : α → β} {earlier later : List α} {a : α}
    (h : ((earlier ++ a :: later).map f).Nodup) : ∀ b ∈ earlier ++ later, f b ≠ f a := by
  rw [List.map_append, List.map_cons, List.nodup_middle, List.nodup_cons, ← List.map_append] at h
  exact fun b hb heq => h.1 (List.mem_map.2 ⟨b, hb, heq⟩)

namespace Response

variable {r left : Response S} {t : PayloadType S} {callId : String} {d : t.Data} {e : Error}

/-! ### One answer -/

/-- What is left of `r` when the answer that settles what is got for a call is gone from it. -/
def Leaves (r : Response S) (t : PayloadType S) (callId : String) (i : Invocation (Payload S))
    (left : Response S) : Prop :=
  ∃ earlier later, r.answers = earlier ++ i :: later ∧ i.callId = callId ∧
    (∀ k ∈ earlier, k.callId = callId → ¬ k.Settles t) ∧ left = { r with answers := earlier ++ later }

theorem take_eq_map (r : Response S) (t : PayloadType S) (callId : String) :
    r.take t callId =
      (r.get t callId).map fun d => (d, { r with answers := r.answers.eraseP (·.isAnswer t callId) }) := by
  unfold take
  cases r.get t callId <;> rfl

/-- The answer that settles what is got is the first one that a search by call and type alone comes upon. -/
theorem search_isAnswer {earlier later : List (Invocation (Payload S))} {i : Invocation (Payload S)}
    (hanswers : r.answers = earlier ++ i :: later) (hi : i.isAnswer t callId = true)
    (hearlier : ∀ k ∈ earlier, k.callId = callId → ¬ k.Settles t) :
    r.answers.find? (·.isAnswer t callId) = some i ∧
      r.answers.eraseP (·.isAnswer t callId) = earlier ++ later := by
  have hnot : ∀ k ∈ earlier, ¬ k.isAnswer t callId = true := fun k hk hanswer => by
    obtain ⟨hcall, htype⟩ := Invocation.isAnswer_iff.1 hanswer
    exact hearlier k hk hcall (Or.inl htype)
  rw [hanswers]
  constructor
  · rw [List.find?_append, List.find?_eq_none.2 hnot, Option.none_or, List.find?_cons_of_pos hi]
  · rw [List.eraseP_append_right _ hnot, List.eraseP_cons_of_pos hi]

theorem take_eq_ok_iff :
    r.take t callId = .ok (d, left) ↔ ∃ i, r.Leaves t callId i left ∧ i.content = ⟨t, d⟩ := by
  have hget : r.get t callId = .ok d ↔ ∃ i earlier later, (r.answers = earlier ++ i :: later ∧
      i.callId = callId ∧ ∀ k ∈ earlier, k.callId = callId → ¬ k.Settles t) ∧ i.content = ⟨t, d⟩ := by
    rw [get_eq_ok_iff]
    refine exists_congr fun i => ?_
    rw [firstSettling_iff]
    constructor
    · rintro ⟨⟨earlier, later, hanswers, hid, -, hearlier⟩, hi⟩
      exact ⟨earlier, later, ⟨hanswers, hid, hearlier⟩, hi⟩
    · rintro ⟨earlier, later, ⟨hanswers, hid, hearlier⟩, hi⟩
      exact ⟨⟨earlier, later, hanswers, hid, Or.inl (congrArg Payload.type hi), hearlier⟩, hi⟩
  have herase {i : Invocation (Payload S)} {earlier later : List (Invocation (Payload S))}
      (hanswers : r.answers = earlier ++ i :: later) (hid : i.callId = callId) (hi : i.content = ⟨t, d⟩)
      (hearlier : ∀ k ∈ earlier, k.callId = callId → ¬ k.Settles t) :
      r.answers.eraseP (·.isAnswer t callId) = earlier ++ later :=
    (search_isAnswer hanswers (Invocation.isAnswer_iff.2 ⟨hid, congrArg Payload.type hi⟩) hearlier).2
  rw [take_eq_map, map_eq_ok_iff]
  constructor
  · rintro ⟨d', hd', heq⟩
    obtain ⟨rfl, rfl⟩ := Prod.mk.inj heq
    obtain ⟨i, earlier, later, ⟨hanswers, hid, hearlier⟩, hi⟩ := hget.1 hd'
    exact ⟨i, ⟨earlier, later, hanswers, hid, hearlier, by rw [herase hanswers hid hi hearlier]⟩, hi⟩
  · rintro ⟨i, ⟨earlier, later, hanswers, hid, hearlier, rfl⟩, hi⟩
    exact ⟨d, hget.2 ⟨i, earlier, later, ⟨hanswers, hid, hearlier⟩, hi⟩,
      by rw [herase hanswers hid hi hearlier]⟩

theorem exists_take_eq_ok_iff : (∃ left, r.take t callId = .ok (d, left)) ↔ r.get t callId = .ok d := by
  simp [take_eq_map, map_eq_ok_iff]

theorem take_eq_error_iff : r.take t callId = .error e ↔ r.get t callId = .error e := by
  rw [take_eq_map]
  cases r.get t callId <;> simp

/-! ### Taking out of the response itself -/

/-- Takes the answer of type `t` to a call out of the response itself. Once it is known that there is one, it is looked
for by its call and its type. -/
def takeOut (t : PayloadType S) (callId : String) : EStateM Error (Response S) t.Data := do
  let r ← MonadState.get
  let _ ← MonadExcept.ofExcept (r.get t callId)
  match r.answers.find? (·.isAnswer t callId) with
  | none => throw (.missingResponse callId)
  | some i =>
    set { r with answers := r.answers.eraseP (·.isAnswer t callId) }
    match i.content.as? t with
    | none => throw (.unexpectedResponse callId i.name)
    | some d => return d

/-- What `r` comes to when something is taken out of it, if it is known what is left: without that it stays. -/
def inPlace {α : Type} (r : Response S) : Except Error (α × Response S) → EStateM.Result Error (Response S) α
  | .ok (a, left) => .ok a left
  | .error e => .error e r

/-- What is got is found again, so nothing is taken out of the response and then not handed out. -/
theorem run_takeOut (r : Response S) (t : PayloadType S) (callId : String) :
    (takeOut t callId).run r = r.inPlace (r.take t callId) := by
  unfold takeOut
  cases htake : r.take t callId with
  | error e => simp [run_ofExcept, take_eq_error_iff.1 htake, inPlace]
  | ok taken =>
    obtain ⟨d, left⟩ := taken
    obtain ⟨i, ⟨earlier, later, hanswers, hid, hearlier, rfl⟩, hi⟩ := take_eq_ok_iff.1 htake
    have hanswer : i.isAnswer t callId = true := Invocation.isAnswer_iff.2 ⟨hid, congrArg Payload.type hi⟩
    obtain ⟨hfind, herase⟩ := search_isAnswer hanswers hanswer hearlier
    have hget : r.get t callId = .ok d := exists_take_eq_ok_iff.1 ⟨_, htake⟩
    simp only [EStateM.run_bind, EStateM.run_get, hget, run_ofExcept, hfind, herase, Payload.as?_eq_some_iff.2 hi]
    rfl

/-! ### Many answers -/

/-- What was asked for, and what came of it. -/
structure Taking (S : Schema) where
  type : PayloadType S
  callId : String
  result : Except Error type.Data

/-- Takes answers of given types to given calls, one after the other. The second part is what is left in the end. -/
def takeAll (r : Response S) : List (PayloadType S × String) → List (Taking S) × Response S
  | [] => ([], r)
  | (t, callId) :: asked =>
    match r.take t callId with
    | .ok (d, left) => (⟨t, callId, .ok d⟩ :: (left.takeAll asked).1, (left.takeAll asked).2)
    | .error e => (⟨t, callId, .error e⟩ :: (r.takeAll asked).1, (r.takeAll asked).2)

/-- The items of `is` that stand at other places than `places`. -/
def itemsWithout {α : Type} (places : List Nat) (is : List α) : List α :=
  (is.zipIdx.filter fun e => e.2 ∉ places).map (·.1)

/-- A response is what is left of `original` when the answers at `places` were handed out. -/
structure LeftOf (original : Response S) (places : List Nat) (r : Response S) : Prop where
  answers_eq : r.answers = itemsWithout places original.answers
  createdIds_eq : r.createdIds = original.createdIds
  sessionState_eq : r.sessionState = original.sessionState

/-- What was taken is the answer of `original` at a place, if anything was taken. -/
def Taking.IsFrom (original : Response S) (k : Taking S) (place : Option Nat) : Prop :=
  match k.result with
  | .ok d => ∃ n i, place = some n ∧ original.answers[n]? = some i ∧ i.callId = k.callId ∧ i.content = ⟨k.type, d⟩
  | .error _ => place = none

theorem leftOf_self (r : Response S) : r.LeftOf [] r where
  answers_eq := by simp [itemsWithout]
  createdIds_eq := rfl
  sessionState_eq := rfl

/-- An item that is left stands at a place of its own, and the others are left without this place too. -/
theorem itemsWithout_concat {α : Type} {is : List α} {places : List Nat} {earlier later : List α} {i : α}
    (h : itemsWithout places is = earlier ++ i :: later) :
    ∃ n, n ∉ places ∧ is[n]? = some i ∧ itemsWithout (places ++ [n]) is = earlier ++ later := by
  obtain ⟨front, back, hsplit, rfl, hback⟩ := List.map_eq_append_iff.1 h
  obtain ⟨⟨i, n⟩, rest, rfl, rfl, rfl⟩ := List.map_eq_cons_iff.1 hback
  have hmem : (i, n) ∈ is.zipIdx.filter fun e => e.2 ∉ places := by
    rw [hsplit]
    simp
  obtain ⟨hplace, hnew⟩ := List.mem_filter.1 hmem
  have hnodup : ((front ++ (i, n) :: rest).map (·.2)).Nodup := by
    have hall : (is.zipIdx.map (·.2)).Nodup := by
      rw [List.zipIdx_map_snd]
      exact List.nodup_range'
    rw [← hsplit]
    exact hall.sublist (List.filter_sublist.map _)
  have hothers : ∀ e ∈ front ++ rest, e.2 ≠ n := ne_of_nodup_middle hnodup
  have hkept : (is.zipIdx.filter fun e => e.2 ∉ places ++ [n]) = front ++ rest := by
    have hfilter : (is.zipIdx.filter fun e => e.2 ∉ places ++ [n]) =
        (is.zipIdx.filter fun e => e.2 ∉ places).filter fun e => e.2 ≠ n := by
      rw [List.filter_filter]
      refine List.filter_congr fun e _ => ?_
      simp [and_comm]
    rw [hfilter, hsplit, List.filter_append, List.filter_cons_of_neg (by simp), ← List.filter_append]
    exact List.filter_eq_self.2 fun e he => by simpa using hothers e he
  refine ⟨n, by simpa using hnew, List.mem_zipIdx_iff_getElem?.1 hplace, ?_⟩
  rw [itemsWithout, hkept, List.map_append]

/-- What is taken stands at a place that was not handed out before. -/
theorem LeftOf.take {original : Response S} {places : List Nat} (h : original.LeftOf places r)
    (htake : r.take t callId = .ok (d, left)) :
    ∃ n, n ∉ places ∧ Taking.IsFrom original ⟨t, callId, .ok d⟩ (some n) ∧ original.LeftOf (places ++ [n]) left := by
  obtain ⟨i, ⟨earlier, later, hanswers, hid, -, rfl⟩, hi⟩ := take_eq_ok_iff.1 htake
  obtain ⟨n, hnew, hplace, hothers⟩ := itemsWithout_concat (h.answers_eq.symm.trans hanswers)
  exact ⟨n, hnew, ⟨n, i, rfl, hplace, hid, hi⟩, ⟨hothers.symm, h.createdIds_eq, h.sessionState_eq⟩⟩

theorem map_takeAll (r : Response S) (asked : List (PayloadType S × String)) :
    (r.takeAll asked).1.map (fun k => (k.type, k.callId)) = asked := by
  induction asked generalizing r with
  | nil => rfl
  | cons a asked ih =>
    obtain ⟨t, callId⟩ := a
    rw [takeAll]
    split <;> rw [List.map_cons, ih]

/-- Whatever was handed out before, a run hands out answers at other places, one for each time that it has something
to take. -/
theorem LeftOf.takeAll {original r : Response S} {places : List Nat} (h : original.LeftOf places r)
    (hnodup : places.Nodup) (asked : List (PayloadType S × String)) :
    ∃ taken : List (Option Nat), List.Forall₂ (Taking.IsFrom original) (r.takeAll asked).1 taken ∧
      (places ++ taken.reduceOption).Nodup ∧
      original.LeftOf (places ++ taken.reduceOption) (r.takeAll asked).2 := by
  induction asked generalizing r places with
  | nil => exact ⟨[], .nil, by simpa using hnodup, by simpa [Response.takeAll] using h⟩
  | cons a asked ih =>
    obtain ⟨t, callId⟩ := a
    rw [Response.takeAll]
    cases htake : r.take t callId with
    | error e =>
      obtain ⟨taken, hfrom, hplaces, hleft⟩ := ih h hnodup
      exact ⟨none :: taken, .cons rfl hfrom, hplaces, hleft⟩
    | ok x =>
      obtain ⟨d, left⟩ := x
      obtain ⟨n, hnew, hn, hleft⟩ := h.take htake
      have hnodup' : (places ++ [n]).Nodup :=
        List.nodup_append.2 ⟨hnodup, List.nodup_singleton n, fun k hk m hm => by
          obtain rfl := List.mem_singleton.1 hm
          exact ne_of_mem_of_not_mem hk hnew⟩
      obtain ⟨taken, hfrom, hplaces, hlast⟩ := ih hleft hnodup'
      rw [List.append_assoc] at hplaces hlast
      exact ⟨some n :: taken, .cons hn hfrom, hplaces, hlast⟩

/-- What `take` gives is what `get` gives, and the answer that settled it is gone then; over any run no answer is
given twice (`IsFrom`), and all others are left in their order (`LeftOf`). -/
theorem take_exact (r : Response S) :
    (∀ (t : PayloadType S) (callId : String),
      (∀ d, (∃ left, r.take t callId = .ok (d, left)) ↔ r.get t callId = .ok d) ∧
      (∀ d left, r.take t callId = .ok (d, left) ↔ ∃ i, r.Leaves t callId i left ∧ i.content = ⟨t, d⟩) ∧
      (∀ e, r.take t callId = .error e ↔ r.get t callId = .error e) ∧
      (takeOut t callId).run r = r.inPlace (r.take t callId) ∧
      ∀ e r', (takeOut t callId).run r = .error e r' ↔ r.get t callId = .error e ∧ r' = r) ∧
    ∀ asked : List (PayloadType S × String),
      (r.takeAll asked).1.map (fun k => (k.type, k.callId)) = asked ∧
      ∃ taken : List (Option Nat), List.Forall₂ (Taking.IsFrom r) (r.takeAll asked).1 taken ∧
        taken.reduceOption.Nodup ∧ r.LeftOf taken.reduceOption (r.takeAll asked).2 := by
  refine ⟨fun t callId => ⟨fun d => exists_take_eq_ok_iff, fun d left => take_eq_ok_iff, fun e => take_eq_error_iff,
    run_takeOut r t callId, fun e r' => ?_⟩, fun asked => ⟨map_takeAll r asked, ?_⟩⟩
  · rw [run_takeOut, ← take_eq_error_iff]
    cases r.take t callId <;> simp [inPlace, eq_comm]
  · obtain ⟨taken, hfrom, hplaces, hleft⟩ := r.leftOf_self.takeAll List.nodup_nil asked
    exact ⟨taken, hfrom, by simpa using hplaces, by simpa using hleft⟩

end Response

end JmapClient
