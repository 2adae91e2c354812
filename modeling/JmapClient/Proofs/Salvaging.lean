import JmapClient.Notes
import JmapClient.Proofs.Payloads
import JmapClient.Proofs.Json.Members
import Mathlib.Data.List.Induction

/-!
# Errors that are malformed

A server's error is read as it should be, or else what it tells is salvaged. Both ways keep the same of it
(`MethodError.extra_ofValue`, `MethodError.type_ofValue`, `MethodError.description_ofValue`), so what a
client learns does not depend on which of them was taken, unless there is a description that is null.
-/

namespace JmapClient

open Json Json.Record Notes

variable {S : Schema}

namespace MethodError

/-! ### Members of errors -/

/-- What else an error tells are the members that are no parts of it. -/
theorem ofList_others_memberTrees (m : SortedMap String Value) :
    SortedMap.ofList (others names (Value.memberTrees m)) = (m.erase "type").erase "description" := by
  have hothers : others names (Value.memberTrees m) = ((m.erase "type").erase "description").entries := by
    have hfilter (e : String × Value) :
        decide (e.1 ∉ names) = (e.1 != "description" && e.1 != "type") := by
      rw [Bool.eq_iff_iff]
      simp [names, and_comm]
    rw [others, Value.memberTrees, List.filter_map, List.map_map]
    simp only [Function.comp_def, Value.ofTree_tree, List.map_id', SortedMap.erase,
      List.filter_filter, hfilter]
    rfl
  rw [hothers, SortedMap.ofList_entries]

/-- A string may be missing where there is a `null`. -/
theorem read_optional_string_eq_ok_iff {v : Value} {o : Option String} :
    (v.read : Except Problem (Option String)) = .ok o ↔
      v = .null ∧ o = none ∨ ∃ s, v = .string s ∧ o = some s := by
  constructor
  · intro h
    obtain ⟨t, ht⟩ := v
    cases t with
    | null => exact Or.inl ⟨rfl, (Except.ok.inj h).symm⟩
    | string s => exact Or.inr ⟨s, rfl, (Except.ok.inj h).symm⟩
    | bool _ | number _ | array _ | object _ => cases h
  · rintro (⟨rfl, rfl⟩ | ⟨s, rfl, rfl⟩) <;> rfl

/-- A field that may be missing is read from the value that has its name. -/
theorem ofMembers_defaulted_memberTrees_eq_ok_iff {α : Type} [Readable α] {name : String} {a₀ a : α}
    {m : SortedMap String Value} :
    (defaulted name a₀).ofMembers (view (Value.memberTrees m)) = .ok a ↔
      m.find? name = none ∧ a = a₀ ∨ ∃ v, m.find? name = some v ∧ v.read = .ok a := by
  rw [ofMembers_defaulted_eq_ok_iff, Value.view_memberTrees]
  simp only [Option.map_eq_none_iff, Option.map_eq_some_iff, exists_exists_and_eq_and, Value.read, eq_comm (a := a)]

/-- The parts of an error. -/
def parts : Record (String × Option String) :=
  Prod.mk <$> defaulted "type" "" <*> Record.optional "description"

theorem lawful_parts : parts.Lawful := ((lawful_field _ _).map _).seq (lawful_field _ _)

theorem ofMembers_parts_eq_ok_iff {m : SortedMap String Value} {type : String} {description : Option String} :
    parts.ofMembers (view (Value.memberTrees m)) = .ok (type, description) ↔
      (m.find? "type" = none ∧ type = "" ∨ m.find? "type" = some (.string type)) ∧
        (m.find? "description" = none ∧ description = none ∨
          m.find? "description" = some .null ∧ description = none ∨
          ∃ s, m.find? "description" = some (.string s) ∧ description = some s) := by
  have htype : (defaulted "type" "").ofMembers (view (Value.memberTrees m)) = .ok type ↔
      m.find? "type" = none ∧ type = "" ∨ m.find? "type" = some (.string type) := by
    simp only [ofMembers_defaulted_memberTrees_eq_ok_iff, read_string_eq_ok_iff, exists_eq_right]
    rfl
  have hdescription : (Record.optional "description").ofMembers (view (Value.memberTrees m)) = .ok description ↔
      m.find? "description" = none ∧ description = none ∨
        m.find? "description" = some .null ∧ description = none ∨
        ∃ s, m.find? "description" = some (.string s) ∧ description = some s := by
    simp only [Record.optional, ofMembers_defaulted_memberTrees_eq_ok_iff, read_optional_string_eq_ok_iff]
    refine or_congr_right ?_
    constructor
    · rintro ⟨v, hv, ⟨rfl, hnone⟩ | ⟨s, rfl, hs⟩⟩
      · exact Or.inl ⟨hv, hnone⟩
      · exact Or.inr ⟨s, hv, hs⟩
    · rintro (⟨hv, hnone⟩ | ⟨s, hv, hs⟩)
      · exact ⟨_, hv, Or.inl ⟨rfl, hnone⟩⟩
      · exact ⟨_, hv, Or.inr ⟨s, rfl, hs⟩⟩
  rw [← htype, ← hdescription, parts, ofMembers_seq_eq_ok_iff]
  simp only [ofMembers_map_eq_ok_iff]
  constructor
  · rintro ⟨f, d, ⟨t, ht, rfl⟩, hd, heq⟩
    obtain ⟨rfl, rfl⟩ := Prod.mk.inj heq
    exact ⟨ht, hd⟩
  · rintro ⟨ht, hd⟩
    exact ⟨_, _, ⟨_, ht, rfl⟩, hd, rfl⟩

/-- What an error that is read tells of its members. -/
theorem read_ofMap_eq_ok_iff {m : SortedMap String Value} {e : MethodError} :
    (Value.ofMap m).read = .ok e ↔
      (m.find? "type" = none ∧ e.type = "" ∨ m.find? "type" = some (.string e.type)) ∧
        (m.find? "description" = none ∧ e.description = none ∨
          m.find? "description" = some .null ∧ e.description = none ∨
          ∃ s, m.find? "description" = some (.string s) ∧ e.description = some s) ∧
        e.extra = (m.erase "type").erase "description" := by
  have hgiven : (given parts.names (Value.memberTrees m)).Nodup := by
    refine List.Nodup.sublist List.filter_sublist ?_
    simpa [Value.memberTrees, Function.comp_def] using Increasing.nodup_keys m.increasing
  have hothers : SortedMap.ofList (others parts.names (Value.memberTrees m)) =
      (m.erase "type").erase "description" :=
    ofList_others_memberTrees m
  have hopen : (Value.ofMap m).read =
      (OpenRecord.read "MethodError" parts (Tree.object (Value.memberTrees m)).draft >>=
        fun p => .ok ⟨p.1.1, p.1.2, p.2⟩ : Except Problem MethodError) := rfl
  obtain ⟨type, description, extra⟩ := e
  rw [hopen, ← and_assoc, ← ofMembers_parts_eq_ok_iff, bind_eq_ok_iff]
  simp only [Prod.exists, lawful_parts.readOpen_object_draft_eq_ok_iff, hgiven, hothers, true_and]
  constructor
  · rintro ⟨type', description', extra', ⟨hown, rfl⟩, heq⟩
    cases heq
    exact ⟨hown, rfl⟩
  · rintro ⟨hown, rfl⟩
    exact ⟨type, description, _, ⟨hown, rfl⟩, rfl⟩

/-- Only an object is read as an error. -/
theorem eq_ofMap_of_read {v : Value} {e : MethodError} (h : v.read = .ok e) :
    ∃ m, v = .ofMap m := by
  cases hm : v.members? with
  | some m => exact ⟨m, Value.members?_eq_some_iff.1 hm⟩
  | none =>
    obtain ⟨t, ht⟩ := v
    cases t with
    | object ms => cases hm
    | null | bool _ | number _ | string _ | array _ => cases h

/-! ### What is kept -/

/-- The members that `v` tells of an error: those of an object, or else a lone value. -/
def told (v : Value) : SortedMap String Value :=
  v.members?.getD (if v.isNull then ∅ else SortedMap.empty.insert "value" v)

theorem told_ofMap (m : SortedMap String Value) : told (.ofMap m) = m := by
  rw [told, Value.members?_eq_some_iff.2 rfl, Option.getD_some]

theorem salvage_eq (v : Value) :
    salvage v = ⟨(((told v).find? "type").map textOf).getD "", ((told v).find? "description").map textOf,
      ((told v).erase "type").erase "description"⟩ := by
  unfold salvage told
  cases v.members? <;> rfl

theorem told_of_members?_eq_none {v : Value} (h : v.members? = none) (hnull : v ≠ .null) :
    told v = SortedMap.empty.insert "value" v := by
  have hisNull : v.isNull = false := by
    obtain ⟨t, ht⟩ := v
    cases t with
    | null => exact absurd rfl hnull
    | bool _ | number _ | string _ | array _ | object _ => rfl
  rw [told, h, Option.getD_none, hisNull, if_neg Bool.false_ne_true]

/-- What is not told by an object has no parts of an error. -/
theorem find?_told_of_members?_eq_none {v : Value} (h : v.members? = none) {k : String}
    (hk : k ∈ names) : (told v).find? k = none := by
  have hne : k ≠ "value" := by
    rintro rfl
    exact absurd hk (by decide)
  by_cases hnull : v = .null
  · rw [hnull]
    rfl
  · rw [told_of_members?_eq_none h hnull, SortedMap.find?_insert_of_ne _ _ hne]
    rfl

theorem string_ne_null (s : String) : Value.string s ≠ .null := fun h => nomatch congrArg Value.tree h

theorem textOf_string (s : String) : textOf (.string s) = s := rfl

theorem textOf_eq_print {v : Value} (h : ∀ s, v ≠ .string s) : textOf v = v.print := by
  obtain ⟨t, ht⟩ := v
  cases t with
  | string s => exact absurd rfl (h s)
  | null | bool _ | number _ | array _ | object _ => rfl

section OfValue

variable (v : Value)

theorem ofValue_cases :
    ofValue v = salvage v ∨ ∃ m, v = .ofMap m ∧ (Value.ofMap m).read = .ok (ofValue v) := by
  unfold ofValue
  cases h : (v.read : Except Problem MethodError) with
  | error p => exact Or.inl rfl
  | ok e =>
    obtain ⟨m, rfl⟩ := eq_ofMap_of_read h
    exact Or.inr ⟨m, rfl, h⟩

theorem extra_ofValue : (ofValue v).extra = ((told v).erase "type").erase "description" := by
  rcases ofValue_cases v with hsalvage | ⟨m, rfl, hread⟩
  · rw [hsalvage, salvage_eq]
  · rw [told_ofMap]
    exact (read_ofMap_eq_ok_iff.1 hread).2.2

theorem type_ofValue : (ofValue v).type = (((told v).find? "type").map textOf).getD "" := by
  rcases ofValue_cases v with hsalvage | ⟨m, rfl, hread⟩
  · rw [hsalvage, salvage_eq]
  · rw [told_ofMap]
    rcases (read_ofMap_eq_ok_iff.1 hread).1 with ⟨hnone, htype⟩ | htype
    · simp [hnone, htype]
    · simp [htype, textOf_string]

/-- A description that is `null` may be none at all. -/
theorem description_ofValue (hnull : (told v).find? "description" ≠ some .null) :
    (ofValue v).description = ((told v).find? "description").map textOf := by
  rcases ofValue_cases v with hsalvage | ⟨m, rfl, hread⟩
  · rw [hsalvage, salvage_eq]
  · rw [told_ofMap] at hnull ⊢
    rcases (read_ofMap_eq_ok_iff.1 hread).2.1 with ⟨hnone, hdescription⟩ | ⟨hnone, -⟩ | ⟨s, hs, hdescription⟩
    · simp [hnone, hdescription]
    · exact absurd hnone hnull
    · simp [hs, hdescription, textOf_string]

end OfValue

/-- What `e` keeps of what a server told of an error: a type and a description, as texts, and everything else as it is.
-/
structure Keeps (e : MethodError) (v : Value) : Prop where
  extra_of_object : ∀ m, v.members? = some m → ∀ k,
    e.extra.find? k = if k = "type" ∨ k = "description" then none else m.find? k
  extra_of_null : v = .null → e.extra = ∅
  extra_of_other : v.members? = none → v ≠ .null → e.extra = SortedMap.empty.insert "value" v
  type_of_string : ∀ m s, v.members? = some m → m.find? "type" = some (.string s) → e.type = s
  type_of_other : ∀ m t, v.members? = some m → m.find? "type" = some t → (∀ s, t ≠ .string s) →
    e.type = t.print
  type_of_none : (∀ m, v.members? = some m → m.find? "type" = none) → e.type = ""
  description_of_string : ∀ m s, v.members? = some m → m.find? "description" = some (.string s) →
    e.description = some s
  description_of_other : ∀ m d, v.members? = some m → m.find? "description" = some d →
    (∀ s, d ≠ .string s) → d ≠ .null → e.description = some d.print
  description_of_none : (∀ m, v.members? = some m → m.find? "description" = none) →
    e.description = none

theorem find?_told {v : Value} {m : SortedMap String Value} (h : v.members? = some m) (k : String) :
    (told v).find? k = m.find? k := by
  rw [told, h, Option.getD_some]

theorem find?_told_eq_none {v : Value} {k : String} (hk : k ∈ names)
    (h : ∀ m, v.members? = some m → m.find? k = none) : (told v).find? k = none := by
  cases hm : v.members? with
  | none => exact find?_told_of_members?_eq_none hm hk
  | some m => rw [find?_told hm, h m hm]

/-- Whatever a server told of an error is kept (`Keeps`). -/
theorem keeps_ofValue (v : Value) : (ofValue v).Keeps v where
  extra_of_object m hm k := by
    rw [extra_ofValue, SortedMap.find?_erase, SortedMap.find?_erase, find?_told hm]
    by_cases htype : k = "type" <;> by_cases hdescription : k = "description" <;>
      simp [htype, hdescription]
  extra_of_null h := by
    rw [extra_ofValue, h]
    rfl
  extra_of_other h hnull := by
    rw [extra_ofValue, told_of_members?_eq_none h hnull]
    rfl
  type_of_string m s hm hs := by
    rw [type_ofValue, find?_told hm, hs]
    rfl
  type_of_other m t hm ht hother := by
    rw [type_ofValue, find?_told hm, ht, Option.map_some, textOf_eq_print hother, Option.getD_some]
  type_of_none h := by
    rw [type_ofValue, find?_told_eq_none (by decide) h]
    rfl
  description_of_string m s hm hs := by
    have hs : (told v).find? "description" = some (.string s) := (find?_told hm _).trans hs
    rw [description_ofValue v (by simpa [hs] using string_ne_null s), hs]
    rfl
  description_of_other m d hm hd hother hnull := by
    have hd : (told v).find? "description" = some d := (find?_told hm _).trans hd
    rw [description_ofValue v (by simpa [hd] using hnull), hd, Option.map_some, textOf_eq_print hother]
  description_of_none h := by
    have hd := find?_told_eq_none (by decide) h
    rw [description_ofValue v (by simp [hd]), hd, Option.map_none]

end MethodError

/-! ### Decoding errors -/

namespace MethodRegistry

/-- Whatever else is registered, errors are decoded leniently (`AnswerDecoder.lenient`). -/
theorem find?_errorName (types : List (String × PayloadType S)) (h : ∀ t ∈ types, t.1 ≠ errorName) :
    (types.foldl (fun methods t => methods.register t.1 t.2) empty).decoders.find? errorName =
      some .lenient := by
  induction types using List.reverseRecOn with
  | nil => exact SortedMap.find?_insert_self _ _ _
  | append_singleton types t ih =>
    rw [List.foldl_append]
    refine (SortedMap.find?_insert_of_ne _ _ (h t (by simp)).symm).trans (ih fun t ht => h t ?_)
    exact List.mem_append_left _ ht

/-- An error of a server is decoded whatever it is: everything that it tells is kept, each part in its place,
and so what is kept can be written, without a name twice, and is read again. -/
theorem ofValue_error (types : List (String × PayloadType S)) (h : ∀ t ∈ types, t.1 ≠ errorName)
    (callId : String) (v : Value) :
    let methods := types.foldl (fun methods t => methods.register t.1 t.2) empty
    ∃ e : MethodError,
      Invocation.ofValue methods (.ofTree (.array [.string errorName, v.tree, .string callId])) =
        .ok ⟨errorName, ⟨.methodError, e⟩, callId⟩ ∧
      e.Keeps v ∧ e.extra.find? "type" = none ∧ e.extra.find? "description" = none ∧
      ∃ ms, write e = .ok (.object ms) ∧ (ms.map (·.1)).Nodup ∧
        (Value.ofTree (.object ms)).read = .ok e := by
  intro methods
  let e := MethodError.ofValue v
  have htidy : e.Tidy := MethodError.tidy_ofValue v
  have hdecode : methods.decode errorName callId v = .ok ⟨.methodError, e⟩ :=
    decode_eq_ok_iff.2 ⟨.lenient, find?_errorName types h, rfl⟩
  refine ⟨e, ?_, MethodError.keeps_ofValue v, ?_, ?_, _, e.write_eq, htidy.nodup_names,
    htidy.read_ofTree e.write_eq⟩
  · exact (Invocation.ofValue_value methods ⟨errorName, v, callId⟩).trans (by rw [hdecode]; rfl)
  · simp [e, MethodError.extra_ofValue, SortedMap.find?_erase]
  · simp [e, MethodError.extra_ofValue, SortedMap.find?_erase]

/-- An error with a number for a type and an array for a description is decoded in the same way as any other,
and what else it tells is kept. -/
theorem ofValue_error_of_number :
    let v : Value := .ofTree (.object [("type", .number (.int 5)),
      ("description", .array [.bool true]), ("retryAfter", .number (.int 30))])
    let methods := (empty (S := schema)).register Echo.methodName .echo
    ∃ e : MethodError,
      Invocation.ofValue methods (.ofTree (.array [.string errorName, v.tree, .string "c"])) =
        .ok ⟨errorName, ⟨.methodError, e⟩, "c"⟩ ∧
      e.type = "5" ∧ e.description = some "[true]" ∧
      e.extra.find? "retryAfter" = some (.ofTree (.number (.int 30))) ∧ e.extra.find? "type" = none := by
  intro v methods
  obtain ⟨e, he, hkeeps, htype, -⟩ :=
    ofValue_error (S := schema) [(Echo.methodName, .echo)] (by decide) "c" v
  have hmembers : v.members? = some (.ofList [("type", .ofTree (.number (.int 5))),
      ("description", .ofTree (.array [.bool true])), ("retryAfter", .ofTree (.number (.int 30)))]) := by
    rw [Value.members?_eq_some_iff]
    rfl
  refine ⟨e, he, ?_, ?_, ?_, htype⟩
  · exact hkeeps.type_of_other _ (.ofTree (.number (.int 5))) hmembers rfl
      fun s h => nomatch congrArg Value.tree h
  · exact hkeeps.description_of_other _ (.ofTree (.array [.bool true])) hmembers rfl
      (fun s h => nomatch congrArg Value.tree h) fun h => nomatch congrArg Value.tree h
  · rw [hkeeps.extra_of_object _ hmembers]
    rfl

end MethodRegistry

end JmapClient
