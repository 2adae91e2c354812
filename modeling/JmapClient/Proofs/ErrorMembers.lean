import JmapClient.Proofs.Salvaging

/-!
# Members of errors

Whether an error is read as it should be or salvaged depends on its type and its description together
(`MethodError.exists_read_ofMap_iff`). Its type is made of the member of this name all the same, whatever else is
told, and so is its description, with one exception: a description that is null is none if the error is read, and a
text if it is salvaged because of its type (`MethodError.description_of_null`). So two errors with the same
description may be decoded with different ones (`MethodRegistry.descriptions_differ_of_null`).
-/

namespace JmapClient

open Json

variable {S : Schema}

namespace MethodError

variable {m m' : SortedMap String Value}

/-! ### Which errors are read -/

/-- The `type` of an error is a string, or there is none. -/
def HasTextualType (m : SortedMap String Value) : Prop := ∀ v, m.find? "type" = some v → ∃ s, v = .string s

/-- The `description` of an error is a string or `null`, or there is none. -/
def HasTextualDescription (m : SortedMap String Value) : Prop :=
  ∀ v, m.find? "description" = some v → v = .null ∨ ∃ s, v = .string s

theorem exists_read_ofMap_iff :
    (∃ e : MethodError, (Value.ofMap m).read = .ok e) ↔ HasTextualType m ∧ HasTextualDescription m := by
  simp only [read_ofMap_eq_ok_iff]
  constructor
  · rintro ⟨e, htype, hdescription, -⟩
    constructor
    · intro v hv
      rcases htype with ⟨hnone, -⟩ | htype
      · simp [hnone] at hv
      · exact ⟨e.type, Option.some.inj (hv.symm.trans htype)⟩
    · intro v hv
      rcases hdescription with ⟨hnone, -⟩ | ⟨hnull, -⟩ | ⟨s, hs, -⟩
      · simp [hnone] at hv
      · exact Or.inl (Option.some.inj (hv.symm.trans hnull))
      · exact Or.inr ⟨s, Option.some.inj (hv.symm.trans hs)⟩
  · rintro ⟨htype, hdescription⟩
    obtain ⟨type, htype⟩ : ∃ s, m.find? "type" = none ∧ s = "" ∨ m.find? "type" = some (.string s) := by
      cases hv : m.find? "type" with
      | none => exact ⟨"", Or.inl ⟨rfl, rfl⟩⟩
      | some v => exact (htype v hv).imp fun s hs => Or.inr (congrArg some hs)
    obtain ⟨description, hdescription⟩ : ∃ o, m.find? "description" = none ∧ o = none ∨
        m.find? "description" = some .null ∧ o = none ∨
        ∃ s, m.find? "description" = some (.string s) ∧ o = some s := by
      cases hv : m.find? "description" with
      | none => exact ⟨none, Or.inl ⟨rfl, rfl⟩⟩
      | some v =>
        rcases hdescription v hv with rfl | ⟨s, rfl⟩
        · exact ⟨none, Or.inr (Or.inl ⟨rfl, rfl⟩)⟩
        · exact ⟨some s, Or.inr (Or.inr ⟨s, rfl, rfl⟩)⟩
    exact ⟨⟨type, description, _⟩, htype, hdescription, rfl⟩

/-! ### What a member is decoded as -/

theorem type_ofMap : (ofValue (.ofMap m)).type = ((m.find? "type").map textOf).getD "" := by
  rw [type_ofValue, told_ofMap]

theorem description_ofMap (h : m.find? "description" ≠ some .null) :
    (ofValue (.ofMap m)).description = (m.find? "description").map textOf := by
  have htold : (told (.ofMap m)).find? "description" ≠ some .null := by rwa [told_ofMap]
  rw [description_ofValue _ htold, told_ofMap]

/-- A description that is `null` is none, unless the type is at fault. -/
theorem description_of_null (h : m.find? "description" = some .null) :
    HasTextualType m ∧ (ofValue (.ofMap m)).description = none ∨
      ¬HasTextualType m ∧ (ofValue (.ofMap m)).description = some "null" := by
  have hdescription : HasTextualDescription m := fun v hv => Or.inl (Option.some.inj (hv.symm.trans h))
  cases hread : ((Value.ofMap m).read : Except Problem MethodError) with
  | ok e =>
    have hvalue : ofValue (.ofMap m) = e := by rw [ofValue, hread]
    refine Or.inl ⟨(exists_read_ofMap_iff.1 ⟨e, hread⟩).1, ?_⟩
    rcases (read_ofMap_eq_ok_iff.1 hread).2.1 with ⟨hnone, -⟩ | ⟨-, hnone⟩ | ⟨s, hs, -⟩
    · simp [hnone] at h
    · rw [hvalue, hnone]
    · exact absurd (Option.some.inj (hs.symm.trans h)) (string_ne_null s)
  | error p =>
    have hsalvage : ofValue (.ofMap m) = salvage (.ofMap m) := by rw [ofValue, hread]
    refine Or.inr ⟨fun htype => ?_, ?_⟩
    · obtain ⟨e, he⟩ := exists_read_ofMap_iff.2 ⟨htype, hdescription⟩
      cases he.symm.trans hread
    · rw [hsalvage, salvage_eq, told_ofMap, h]
      rfl

theorem type_congr (h : m.find? "type" = m'.find? "type") :
    (ofValue (.ofMap m)).type = (ofValue (.ofMap m')).type := by
  rw [type_ofMap, type_ofMap, h]

theorem description_congr_iff (h : m.find? "description" = m'.find? "description") :
    (ofValue (.ofMap m)).description = (ofValue (.ofMap m')).description ↔
      (m.find? "description" = some .null → (HasTextualType m ↔ HasTextualType m')) := by
  by_cases hnull : m.find? "description" = some .null
  · rcases description_of_null hnull with ⟨ht, hd⟩ | ⟨ht, hd⟩ <;>
      rcases description_of_null (h ▸ hnull) with ⟨ht', hd'⟩ | ⟨ht', hd'⟩ <;>
      simp [hnull, ht, hd, ht', hd']
  · have hsame : (ofValue (.ofMap m)).description = (ofValue (.ofMap m')).description := by
      rw [description_ofMap hnull, description_ofMap (h ▸ hnull), h]
    simp [hnull, hsame]

end MethodError

/-! ### Two errors -/

namespace MethodRegistry

open MethodError

variable {methods : MethodRegistry S}

/-- Two errors with the same `type` are decoded with the same one, and two with the same `description` as well, except
if this is `null` and only one of them has a type that is at fault. -/
theorem members_agree_iff (h : methods.decoders.find? errorName = some .lenient) (callId callId' : String)
    (m m' : SortedMap String Value) :
    ∃ e e' : MethodError,
      methods.decode errorName callId (.ofMap m) = .ok ⟨.methodError, e⟩ ∧
      methods.decode errorName callId' (.ofMap m') = .ok ⟨.methodError, e'⟩ ∧
      (m.find? "type" = m'.find? "type" → e.type = e'.type) ∧
      (m.find? "description" = m'.find? "description" →
        (e.description = e'.description ↔
          (m.find? "description" = some .null → (HasTextualType m ↔ HasTextualType m')))) :=
  ⟨ofValue (.ofMap m), ofValue (.ofMap m'), decode_eq_ok_iff.2 ⟨.lenient, h, rfl⟩,
    decode_eq_ok_iff.2 ⟨.lenient, h, rfl⟩, type_congr, description_congr_iff⟩

/-- An error that is read and one that is salvaged, with the same description. -/
theorem members_agree_iff_of_string :
    let m : SortedMap String Value := .ofList [("description", .string "d"), ("type", .string "t")]
    let m' : SortedMap String Value := .ofList [("description", .string "d"), ("type", .null)]
    ∃ e e' : MethodError,
      (empty : MethodRegistry .core).decode errorName "0" (.ofMap m) = .ok ⟨.methodError, e⟩ ∧
      (empty : MethodRegistry .core).decode errorName "1" (.ofMap m') = .ok ⟨.methodError, e'⟩ ∧
      e.description = e'.description := by
  intro m m'
  have hlenient : (empty : MethodRegistry .core).decoders.find? errorName = some .lenient :=
    SortedMap.find?_insert_self _ _ _
  obtain ⟨e, e', he, he', -, hdescription⟩ := members_agree_iff hlenient "0" "1" m m'
  refine ⟨e, e', he, he', (hdescription rfl).2 fun hnull => ?_⟩
  exact absurd (Option.some.inj hnull) (string_ne_null "d")

/-- Of two errors that have nothing but `null` for a description, one has a number for a type: its description is a
text, and the other one has none. -/
theorem descriptions_differ_of_null :
    let m : SortedMap String Value := .ofList [("description", .null)]
    let m' : SortedMap String Value := .ofList [("description", .null), ("type", .ofTree (.number (.int 5)))]
    m.find? "description" = m'.find? "description" ∧
      ∃ e e' : MethodError,
        (empty : MethodRegistry .core).decode errorName "0" (.ofMap m) = .ok ⟨.methodError, e⟩ ∧
        (empty : MethodRegistry .core).decode errorName "1" (.ofMap m') = .ok ⟨.methodError, e'⟩ ∧
        e.description = none ∧ e'.description = some "null" := by
  intro m m'
  refine ⟨rfl, ofValue (.ofMap m), ofValue (.ofMap m'), rfl, rfl, ?_, ?_⟩
  · rfl
  · rfl

end MethodRegistry

end JmapClient
