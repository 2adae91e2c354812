import JmapClient.Proofs.Building
import JmapClient.Proofs.Maps
import JmapClient.Proofs.TextOrder

/-!
# Which calls are queued

A call is refused if its id is taken, if its arguments cannot be written, or if one of them is given both ways
(`Conflict`), and the first of these reasons counts. `Request.queueAs` changes a batch in place, one capability
after the other, as a batch is changed that is not copied; it comes to the same as adding to a copy
(`Request.run_queueAs`), so that a call that is refused leaves no trace. `Request.invokeAs_exact` puts both
together.
-/

namespace JmapClient

open Json

/-! ### Arguments given both ways -/

/-- An argument is given both ways: as a reference, under its name with a `#` in front, and as a value other than
null. -/
def Conflict (arguments : Value) (name : String) : Prop :=
  ∃ ms, arguments.members? = some ms ∧ "#" ++ name ∈ ms.keys ∧ ∃ v, ms.find? name = some v ∧ v.isNull = false

/-- Of the `arguments` that are given both ways, the one whose reference comes first, byte by byte. -/
def FirstConflict (arguments : Value) (name : String) : Prop :=
  Conflict arguments name ∧ ∀ other, Conflict arguments other → other ≠ name →
    Utf8.encode ("#" ++ name) < Utf8.encode ("#" ++ other)

/-- The argument that is given both ways, if `key` tells of one. -/
def conflictUnder? (ms : SortedMap String Value) (key : String) : Option String :=
  match key.toList with
  | '#' :: rest =>
    let name := String.ofList rest
    match ms.find? name with
    | some v => if v.isNull then none else some name
    | none => none
  | _ => none

/-- A key tells of an argument if it is the key of a reference. The argument may be the empty one, or one whose
name begins with a `#` in turn. -/
theorem conflictUnder?_eq_some_iff {ms : SortedMap String Value} {key name : String} :
    conflictUnder? ms key = some name ↔
      key = "#" ++ name ∧ ∃ v, ms.find? name = some v ∧ v.isNull = false := by
  have hkey : key = "#" ++ name ↔ key.toList = '#' :: name.toList := by simp [← String.toList_inj]
  rw [hkey, conflictUnder?]
  split
  next rest hreference =>
    have hname : key.toList = '#' :: name.toList ↔ String.ofList rest = name := by
      rw [hreference, List.cons_inj_right, ← String.toList_inj, String.toList_ofList]
    rw [hname]
    constructor
    · intro h
      dsimp only at h
      split at h
      next v hv =>
        split_ifs at h with hnull
        obtain rfl := Option.some.inj h
        exact ⟨rfl, v, hv, by simpa using hnull⟩
      next => cases h
    · rintro ⟨rfl, v, hv, hnull⟩
      simp [hv, hnull]
  next hother =>
    constructor
    · intro h
      cases h
    · rintro ⟨hreference, -⟩
      exact absurd hreference (hother name.toList)

namespace Request

theorem conflict?_eq_findSome? {arguments : Value} {ms : SortedMap String Value} (h : arguments.members? = some ms) :
    conflict? arguments = ms.keys.findSome? (conflictUnder? ms) := by
  rw [conflict?, h]
  rfl

theorem conflict?_eq_none_iff {arguments : Value} :
    conflict? arguments = none ↔ ∀ name, ¬ Conflict arguments name := by
  cases h : arguments.members? with
  | none => simp [conflict?, Conflict, h]
  | some ms =>
    rw [conflict?_eq_findSome? h, List.findSome?_eq_none_iff]
    constructor
    · rintro hnone name ⟨ms', hms', hkey, hv⟩
      obtain rfl := Option.some.inj (h.symm.trans hms')
      have hsome := conflictUnder?_eq_some_iff.2 ⟨rfl, hv⟩
      rw [hnone _ hkey] at hsome
      cases hsome
    · intro hno key hkey
      rw [Option.eq_none_iff_forall_ne_some]
      intro name hname
      obtain ⟨rfl, hv⟩ := conflictUnder?_eq_some_iff.1 hname
      exact hno name ⟨ms, h, hkey, hv⟩

theorem firstConflict_of_conflict? {arguments : Value} {name : String}
    (h : conflict? arguments = some name) : FirstConflict arguments name := by
  cases hms : arguments.members? with
  | none => simp [conflict?, hms] at h
  | some ms =>
    rw [conflict?_eq_findSome? hms, List.findSome?_eq_some_iff] at h
    obtain ⟨earlier, key, later, hkeys, hkey, hearlier⟩ := h
    obtain ⟨rfl, hv⟩ := conflictUnder?_eq_some_iff.1 hkey
    have hpairwise : ms.keys.Pairwise (· < ·) := ms.pairwise_keys
    rw [hkeys, List.pairwise_append, List.pairwise_cons] at hpairwise
    obtain ⟨-, ⟨hlater, -⟩, -⟩ := hpairwise
    refine ⟨⟨ms, hms, by simp [hkeys], hv⟩, ?_⟩
    rintro other ⟨ms', hms', hmem, hother⟩ hne
    obtain rfl := Option.some.inj (hms.symm.trans hms')
    have hsome := conflictUnder?_eq_some_iff.2 ⟨rfl, hother⟩
    rw [hkeys, List.mem_append, List.mem_cons] at hmem
    rcases hmem with hmem | heq | hmem
    · rw [hearlier _ hmem] at hsome
      cases hsome
    · exact absurd (by simpa using heq) hne
    · exact Utf8.encode_lt_encode_iff.2 (hlater _ hmem)

theorem conflict?_eq_some_iff {arguments : Value} {name : String} :
    conflict? arguments = some name ↔ FirstConflict arguments name := by
  refine ⟨firstConflict_of_conflict?, fun hfirst => ?_⟩
  cases h : conflict? arguments with
  | none => exact absurd hfirst.1 (conflict?_eq_none_iff.1 h name)
  | some other =>
    have hother := firstConflict_of_conflict? h
    by_contra hne
    have hne : other ≠ name := fun heq => hne (congrArg some heq)
    exact absurd (hfirst.2 other hother.1 hne) (List.lt_asymm (hother.2 name hfirst.1 hne.symm))

-- A reference without a name stands for the empty argument; it is null here, so that `##x` comes first.
example : conflict? (.ofTree (.object [("", .null), ("#", .bool true), ("#x", .bool true), ("##x", .bool true),
    ("x", .bool true)])) = some "#x" := by
  decide +kernel

/-- Among arguments that are given both ways (`Conflict`) there is a first one. -/
theorem exists_firstConflict_iff {arguments : Value} :
    (∃ name, FirstConflict arguments name) ↔ ∃ name, Conflict arguments name := by
  simp only [← not_iff_not (b := ∃ name, Conflict arguments name), not_exists, ← conflict?_eq_none_iff,
    ← conflict?_eq_some_iff, Option.eq_none_iff_forall_ne_some, ne_eq]

/-! ### Changing a batch in place -/

/-- Notes that the capability `u` is needed. -/
def need (r : Request) (u : Uri) : Request :=
  { r with uses := if r.uses.contains u then r.uses else r.uses ++ [u] }

/-- Adds a call under `callId` to the batch itself, and says what its id is. -/
def queueAs (callId : String) (m : MethodCall) : EStateM Error Request String := do
  if (← get).hasCall callId then
    throw (.duplicateCallId callId)
  let arguments ← MonadExcept.ofExcept (Error.ofProblem m.arguments)
  if let some name := conflict? arguments then
    throw (.conflictingArgument name)
  forM m.requires fun u => modify (·.need u)
  modify fun r => { r with calls := r.calls ++ [⟨m.name, arguments, callId⟩] }
  return callId

/-- Adds a call with an id of its own to the batch itself, and says what its id is. -/
def queue (m : MethodCall) : EStateM Error Request String := do
  let r ← get
  queueAs (hexNumeral r.nextNumber) m

/-- What the batch `r` comes to in place, if a changed copy of it is known: without one it stays. -/
def inPlace (r : Request) : Except Error (Request × String) → EStateM.Result Error Request String
  | .ok (r', callId) => .ok callId r'
  | .error e => .error e r

theorem inPlace_eq_ok_iff {r r' : Request} {callId : String} {copy : Except Error (Request × String)} :
    r.inPlace copy = .ok callId r' ↔ copy = .ok (r', callId) := by
  rcases copy with e | ⟨r₁, callId₁⟩ <;> simp [inPlace, and_comm]

theorem eq_of_inPlace_eq_error {r r' : Request} {e : Error} {copy : Except Error (Request × String)}
    (h : r.inPlace copy = .error e r') : r' = r := by
  rcases copy with e₁ | ⟨r₁, callId₁⟩
  · exact (EStateM.Result.error.inj h).2.symm
  · cases h

theorem run_forM_need (r : Request) (us : List Uri) :
    (forM us fun u => modify (·.need u) : EStateM Error Request PUnit).run r =
      .ok ⟨⟩ { r with uses := addUses r.uses us } := by
  induction us generalizing r with
  | nil => rfl
  | cons u us ih =>
    rw [List.forM_cons, EStateM.run_bind, EStateM.run_modify]
    exact ih (r.need u)

/-- Whatever makes a call be refused is found before the batch is changed: in place or not, `invokeAs` is the same. -/
theorem run_queueAs (r : Request) (callId : String) (m : MethodCall) :
    (queueAs callId m).run r = r.inPlace (r.invokeAs callId m) := by
  unfold queueAs invokeAs
  cases hc : r.hasCall callId with
  | true => simp [hc, inPlace]
  | false =>
    cases hm : m.arguments with
    | error p => simp [hc, inPlace, Error.ofProblem, run_ofExcept]
    | ok v =>
      cases hv : conflict? v with
      | some name => simp [hc, hv, inPlace, Error.ofProblem, run_ofExcept]
      | none =>
        simp only [Error.ofProblem, bind_pure_comp, EStateM.run_bind, EStateM.run_get, hc, Bool.false_eq_true,
          ↓reduceIte, run_ofExcept, hv, run_forM_need, inPlace]
        rfl

theorem run_queue (r : Request) (m : MethodCall) : (queue m).run r = r.inPlace (r.invoke m) := by
  rw [queue, EStateM.run_bind, EStateM.run_get]
  exact run_queueAs r _ m

/-! ### What a batch is and what it becomes -/

theorem prefix_addUses (uses more : List Uri) : uses <+: addUses uses more := by
  induction more generalizing uses with
  | nil => exact List.prefix_refl uses
  | cons u more ih =>
    have hstep : uses <+: if uses.contains u then uses else uses ++ [u] := by
      split_ifs
      · exact List.prefix_refl uses
      · exact List.prefix_append uses [u]
    exact hstep.trans (ih _)

/-- The batch `r` has grown to `r'`: it may have got more capabilities and more calls, behind its own. -/
structure GrowsTo (r r' : Request) : Prop where
  uses_prefix : r.uses <+: r'.uses
  calls_prefix : r.calls <+: r'.calls
  createdIds_eq : r'.createdIds = r.createdIds

theorem growsTo_push (r : Request) (m : MethodCall) (v : Value) (callId : String) :
    r.GrowsTo (r.push m v callId) where
  uses_prefix := prefix_addUses r.uses m.requires
  calls_prefix := List.prefix_append r.calls _
  createdIds_eq := rfl

theorem growsTo_of_invokeAs {r r' : Request} {callId callId' : String} {m : MethodCall}
    (h : r.invokeAs callId m = .ok (r', callId')) : r.GrowsTo r' := by
  obtain ⟨-, -, v, -, -, rfl⟩ := invokeAs_eq_ok_iff.1 h
  exact r.growsTo_push m v callId

/-! ### Why a call is refused -/

theorem invokeAs_eq_error_iff {r : Request} {callId : String} {m : MethodCall} {e : Error} :
    r.invokeAs callId m = .error e ↔
      callId ∈ r.calls.map (·.callId) ∧ e = .duplicateCallId callId ∨
        callId ∉ r.calls.map (·.callId) ∧
          ((∃ p, m.arguments = .error p ∧ e = .json p) ∨
            ∃ v name, m.arguments = .ok v ∧ conflict? v = some name ∧ e = .conflictingArgument name) := by
  cases hc : r.hasCall callId with
  | true =>
    have hmem : callId ∈ r.calls.map (·.callId) := by
      by_contra hfresh
      rw [hasCall_eq_false_iff.2 hfresh] at hc
      cases hc
    simp only [invokeAs, hc, if_true, Except.error.injEq, hmem, true_and, not_true, false_and, or_false]
    exact eq_comm
  | false =>
    have hfresh := hasCall_eq_false_iff.1 hc
    simp only [hfresh, false_and, false_or, not_false_eq_true, true_and]
    cases hm : m.arguments with
    | error p => simp [invokeAs, hc, hm, eq_comm]
    | ok v =>
      cases hv : conflict? v with
      | some name => simp [invokeAs, hc, hm, hv, eq_comm]
      | none => simp [invokeAs, hc, hm, hv]

theorem invokeAs_eq_duplicateCallId_iff {r : Request} {callId id : String} {m : MethodCall} :
    r.invokeAs callId m = .error (.duplicateCallId id) ↔ callId ∈ r.calls.map (·.callId) ∧ id = callId := by
  simp [invokeAs_eq_error_iff]

theorem invokeAs_eq_json_iff {r : Request} {callId : String} {m : MethodCall} {p : Problem} :
    r.invokeAs callId m = .error (.json p) ↔ callId ∉ r.calls.map (·.callId) ∧ m.arguments = .error p := by
  simp [invokeAs_eq_error_iff]

theorem invokeAs_eq_conflictingArgument_iff {r : Request} {callId name : String} {m : MethodCall} :
    r.invokeAs callId m = .error (.conflictingArgument name) ↔
      callId ∉ r.calls.map (·.callId) ∧ ∃ v, m.arguments = .ok v ∧ FirstConflict v name := by
  simp [invokeAs_eq_error_iff, conflict?_eq_some_iff]

/-- A call is refused if its id is taken, or its arguments cannot be written, or one of them is given both ways
(`Conflict`, `FirstConflict`), and the batch stays as it is then. -/
theorem invokeAs_exact (r : Request) (callId : String) (m : MethodCall) :
    let fresh := ∀ c ∈ r.calls, c.callId ≠ callId
    (∀ id, r.invokeAs callId m = .error (.duplicateCallId id) ↔ ¬fresh ∧ id = callId) ∧
      (∀ p, r.invokeAs callId m = .error (.json p) ↔ fresh ∧ m.arguments = .error p) ∧
      (∀ name, r.invokeAs callId m = .error (.conflictingArgument name) ↔
        fresh ∧ ∃ v, m.arguments = .ok v ∧ FirstConflict v name) ∧
      ((∃ name, r.invokeAs callId m = .error (.conflictingArgument name)) ↔
        fresh ∧ ∃ v, m.arguments = .ok v ∧ ∃ name, Conflict v name) ∧
      (∀ id r', r.invokeAs callId m = .ok (r', id) ↔
        fresh ∧ id = callId ∧
          ∃ v, m.arguments = .ok v ∧ (∀ name, ¬Conflict v name) ∧ r' = r.push m v callId) ∧
      ((queueAs callId m).run r = r.inPlace (r.invokeAs callId m) ∧
        (queue m).run r = r.inPlace (r.invoke m)) ∧
      ∀ program ∈ [queueAs callId m, queue m],
        (∀ e r', program.run r = .error e r' → r' = r) ∧
          ∀ id r', program.run r = .ok id r' → r.GrowsTo r' := by
  intro fresh
  have hfresh : callId ∉ r.calls.map (·.callId) ↔ fresh := by simp [fresh]
  have hinPlace {copy : Except Error (Request × String)} (hgrows : ∀ r' id, copy = .ok (r', id) → r.GrowsTo r') :
      (∀ e r', r.inPlace copy = .error e r' → r' = r) ∧ ∀ id r', r.inPlace copy = .ok id r' → r.GrowsTo r' :=
    ⟨fun e r' h => eq_of_inPlace_eq_error h, fun id r' h => hgrows r' id (inPlace_eq_ok_iff.1 h)⟩
  refine ⟨fun id => ?_, fun p => ?_, fun name => ?_, ?_, fun id r' => ?_,
    ⟨run_queueAs r callId m, run_queue r m⟩, ?_⟩
  · rw [invokeAs_eq_duplicateCallId_iff, ← hfresh, not_not]
  · rw [invokeAs_eq_json_iff, hfresh]
  · rw [invokeAs_eq_conflictingArgument_iff, hfresh]
  · simp only [invokeAs_eq_conflictingArgument_iff, hfresh, exists_and_left, ← exists_firstConflict_iff]
    rw [exists_comm]
    simp only [exists_and_left]
  · simp only [invokeAs_eq_ok_iff, hfresh, conflict?_eq_none_iff]
  · simp only [List.forall_mem_cons, List.not_mem_nil, false_implies, implies_true, and_true, run_queueAs, run_queue]
    exact ⟨hinPlace fun r' id h => growsTo_of_invokeAs h, hinPlace fun r' id h => growsTo_of_invokeAs h⟩

end Request

end JmapClient
