import JmapClient.Proofs.Json.Faithful

/-!
# Members and items of values

An object is the value of its members (`Value.members?_eq_some_iff`), an array that of its items
(`Value.items?_eq_some_iff`) and a string that of its text (`Value.string?_eq_some_iff`). What a document binds a
name to is what its value binds it to, if no name is repeated (`Value.exists_members?_ofTree`).
-/

namespace JmapClient.Json

open Record

namespace Value

theorem tree_injective : Function.Injective tree := fun _ _ h => ext h

/-! ### Objects -/

theorem ofMembers_map (es : List (String × Value))
    (h : Tree.MembersCanonical (es.map fun e => (e.1, e.2.tree))) :
    ofMembers (es.map fun e => (e.1, e.2.tree)) h = es := by
  simp only [ofMembers, List.pmap_map, List.pmap_eq_self, implies_true]

theorem members?_eq_some_iff {v : Value} {m : SortedMap String Value} :
    v.members? = some m ↔ v = .ofMap m := by
  constructor
  · intro h
    obtain ⟨t, ht⟩ := v
    cases t with
    | object ms =>
      obtain rfl := Option.some.inj h
      refine ext ?_
      show Tree.object ms = .object (memberTrees _)
      simp [memberTrees, ofMembers, List.map_pmap]
    | null | bool _ | number _ | string _ | array _ => cases h
  · rintro rfl
    have hc : Tree.MembersCanonical (memberTrees m) ∧ Increasing (memberTrees m) := by
      have := (ofMap m).canonical
      rwa [ofMap, Tree.Canonical] at this
    exact congrArg some (SortedMap.ext (ofMembers_map m.entries hc.1))

theorem lookup_memberTrees (m : SortedMap String Value) (k : String) :
    (memberTrees m).lookup k = (m.find? k).map (·.tree) := by
  have go (es : List (String × Value)) :
      (es.map fun e => (e.1, e.2.tree)).lookup k = (findEntry k es).map (·.tree) := by
    induction es with
    | nil => rfl
    | cons e es ih =>
      rw [findEntry_cons, List.map_cons, List.lookup_cons]
      by_cases h : e.1 = k
      · simp [h]
      · have hne : (k == e.1) = false := beq_false_of_ne (Ne.symm h)
        simpa only [hne, h, if_false] using ih
  exact go m.entries

theorem view_memberTrees (m : SortedMap String Value) (k : String) :
    view (memberTrees m) k = (m.find? k).map (·.draft) := by
  rw [view, lookup_memberTrees, Option.map_map]
  rfl

/-- The value of an object that repeats no name binds each name to the value of what the object has under it. -/
theorem exists_members?_ofTree {ms : List (String × Tree)} (h : (ms.map (·.1)).Nodup) :
    ∃ m, (ofTree (.object ms)).members? = some m ∧
      ∀ k v, m.find? k = some v ↔ ∃ t, (k, t) ∈ ms ∧ ofTree t = v := by
  let es : List (String × Value) := ms.map fun m => (m.1, ofTree m.2)
  have hes : (es.map (·.1)).Nodup := by simpa [es, Function.comp_def] using h
  have htrees : memberTrees (.ofList es) = sortEntries (Tree.normalizeMembers ms) := by
    have hincreasing : Increasing (memberTrees (.ofList es)) := by
      have := (SortedMap.ofList es).increasing
      unfold Increasing memberTrees at *
      rwa [List.pairwise_map]
    have hms : ((Tree.normalizeMembers ms).map (·.1)).Nodup := by
      rwa [normalizeMembers_eq_map, List.map_map]
    have hvalues : es.map (fun e => (e.1, e.2.tree)) = Tree.normalizeMembers ms := by
      simp [es, normalizeMembers_eq_map, Function.comp_def, ofTree]
    refine hincreasing.eq_of_perm (increasing_sortEntries _) (((sortEntries_perm hes).map _).trans ?_)
    rw [hvalues]
    exact (sortEntries_perm hms).symm
  refine ⟨.ofList es, members?_eq_some_iff.2 (ext ?_), fun k v => ?_⟩
  · show (Tree.object ms).normalize = .object _
    rw [Tree.normalize, htrees]
  · rw [SortedMap.find?_ofList_eq_some_iff hes]
    simp only [es, List.mem_map, Prod.mk.injEq, Prod.exists]
    constructor
    · rintro ⟨k, t, ht, rfl, rfl⟩
      exact ⟨t, ht, rfl⟩
    · rintro ⟨t, ht, rfl⟩
      exact ⟨k, t, ht, rfl, rfl⟩

/-! ### Arrays -/

theorem items?_eq_some_iff {v : Value} {vs : List Value} :
    v.items? = some vs ↔ v.tree = .array (vs.map tree) := by
  obtain ⟨t, ht⟩ := v
  cases t with
  | array ts =>
    have hc : ∀ u ∈ ts, u.Canonical := by
      rw [Tree.Canonical] at ht
      exact Tree.allCanonical_iff.1 ht
    have hitems : (⟨.array ts, ht⟩ : Value).items? = some (ts.pmap Value.mk hc) := rfl
    rw [hitems, Option.some.injEq, Tree.array.injEq, ← (List.map_injective_iff.2 tree_injective).eq_iff,
      List.map_pmap, List.pmap_eq_map, List.map_id']
  | null | bool _ | number _ | string _ | object _ => simp [items?]

theorem items?_ofTree_array (ts : List Tree) : (ofTree (.array ts)).items? = some (ts.map ofTree) := by
  rw [items?_eq_some_iff]
  show (Tree.array ts).normalize = _
  simp [Tree.normalize, normalizeAll_eq_map, ofTree]

/-! ### Strings -/

theorem string?_eq_some_iff {v : Value} {s : String} : v.string? = some s ↔ v = .ofTree (.string s) := by
  obtain ⟨t, ht⟩ := v
  constructor
  · intro h
    cases t with
    | string s' =>
      obtain rfl : s' = s := Option.some.inj h
      rfl
    | null | bool _ | number _ | array _ | object _ => cases h
  · intro h
    rw [h]
    rfl

end Value

end JmapClient.Json
