import JmapClient.SortedMap
import Mathlib.Data.List.Basic
import Mathlib.Data.List.Forall2
import Mathlib.Data.List.Induction
import Mathlib.Data.List.Nodup

/-!
# Looking up in maps

What a map binds is what its entries say (`SortedMap.find?_eq_some_iff`), and what it binds after an
insertion is what was inserted or what it bound before. Maps that bind the same are equal
(`SortedMap.eq_of_find?_eq`). A map that is made of a list of entries with keys of their own does not depend on
the order of the list (`SortedMap.ofList_eq_of_perm`).
-/

namespace JmapClient

variable {κ ν : Type} [TextKey κ]

theorem TextKey.text_beq_iff {a b : κ} : (text a == text b) = true ↔ a = b :=
  ⟨fun h => text_injective (by simpa using h), fun h => by simp [h]⟩

theorem Increasing.eq_of_mem {es : List (κ × ν)} (h : Increasing es) {d e : κ × ν} (hd : d ∈ es)
    (he : e ∈ es) (hkey : d.1 = e.1) : d = e := by
  induction es with
  | nil => cases hd
  | cons c es ih =>
    obtain ⟨hc, hes⟩ := List.pairwise_cons.1 h
    have hne {x : κ × ν} (hx : x ∈ es) : c.1 ≠ x.1 := fun heq =>
      String.lt_irrefl (TextKey.text c.1) (by simpa [TextKey.Before, ← heq] using hc x hx)
    rcases List.mem_cons.1 hd with hdc | hd
    · rcases List.mem_cons.1 he with hec | he
      · rw [hdc, hec]
      · exact absurd (hdc ▸ hkey) (hne he)
    · rcases List.mem_cons.1 he with hec | he
      · exact absurd (hec ▸ hkey).symm (hne hd)
      · exact ih hes hd he

theorem Increasing.nodup_keys {es : List (κ × ν)} (h : Increasing es) : (es.map (·.1)).Nodup := by
  rw [List.Nodup, List.pairwise_map]
  refine h.imp fun hbefore heq => ?_
  rw [TextKey.Before, heq] at hbefore
  exact String.lt_irrefl _ hbefore

/-- Entries have only one `Increasing` order. -/
theorem Increasing.eq_of_perm {es ds : List (κ × ν)} (hes : Increasing es) (hds : Increasing ds)
    (h : es.Perm ds) : es = ds := by
  refine h.eq_of_pairwise (fun a b _ _ hab hba => ?_) hes hds
  exact absurd hba (String.lt_asymm hab)

theorem insertEntry_perm {k : κ} {v : ν} {es : List (κ × ν)} (h : k ∉ es.map (·.1)) :
    (insertEntry k v es).Perm ((k, v) :: es) := by
  induction es with
  | nil => rfl
  | cons e es ih =>
    obtain ⟨hne, hes⟩ : k ≠ e.1 ∧ k ∉ es.map (·.1) := by
      simpa only [List.map_cons, List.mem_cons, not_or] using h
    unfold insertEntry
    split_ifs with hlt heq
    · rfl
    · exact absurd (TextKey.text_injective heq) hne
    · exact ((ih hes).cons e).trans (.swap _ _ _)

theorem mem_of_mem_sortEntries {es : List (κ × ν)} {e : κ × ν} (h : e ∈ sortEntries es) : e ∈ es := by
  have go (es : List (κ × ν)) : ∀ acc : List (κ × ν),
      e ∈ es.foldl (fun acc e => insertEntry e.1 e.2 acc) acc → e ∈ acc ∨ e ∈ es := by
    induction es with
    | nil => exact fun _ h => Or.inl h
    | cons d es ih =>
      intro acc h
      rcases ih _ h with h | h
      · rcases mem_insertEntry h with rfl | h
        · exact Or.inr List.mem_cons_self
        · exact Or.inl h
      · exact Or.inr (List.mem_cons_of_mem _ h)
  exact (go es [] h).resolve_left List.not_mem_nil

/-- Sorting entries with keys of their own loses none of them. -/
theorem sortEntries_perm {es : List (κ × ν)} (h : (es.map (·.1)).Nodup) : (sortEntries es).Perm es := by
  have go (es : List (κ × ν)) : ∀ acc : List (κ × ν), ((acc ++ es).map (·.1)).Nodup →
      (es.foldl (fun acc e => insertEntry e.1 e.2 acc) acc).Perm (acc ++ es) := by
    induction es with
    | nil => simp
    | cons e es ih =>
      intro acc hacc
      have hmiddle : (acc ++ e :: es).Perm (e :: acc ++ es) := List.perm_middle
      have hnodup := (hmiddle.map (·.1)).nodup_iff.1 hacc
      have hnew : e.1 ∉ acc.map (·.1) := by
        intro hmem
        rw [List.cons_append, List.map_cons, List.nodup_cons, List.map_append] at hnodup
        exact hnodup.1 (List.mem_append_left _ hmem)
      have hinsert : (insertEntry e.1 e.2 acc ++ es).Perm (e :: acc ++ es) :=
        (insertEntry_perm hnew).append_right es
      exact (ih _ ((hinsert.map (·.1)).nodup_iff.2 hnodup)).trans (hinsert.trans hmiddle.symm)
  exact go es [] h

section Related

variable {κ' ν' : Type} [TextKey κ'] {R : ν → ν' → Prop}

/-- Entries of two lists have the same text for a key, and values that are related. -/
def SameKeys (R : ν → ν' → Prop) (e : κ × ν) (d : κ' × ν') : Prop :=
  TextKey.text e.1 = TextKey.text d.1 ∧ R e.2 d.2

theorem SameKeys.insertEntry {k : κ} {k' : κ'} {v : ν} {v' : ν'} {es : List (κ × ν)} {ds : List (κ' × ν')}
    (h : SameKeys R (k, v) (k', v')) (hes : List.Forall₂ (SameKeys R) es ds) :
    List.Forall₂ (SameKeys R) (insertEntry k v es) (insertEntry k' v' ds) := by
  induction hes with
  | nil => exact .cons h .nil
  | @cons e d es ds hed hes ih =>
    unfold JmapClient.insertEntry
    rw [← hed.1, ← show TextKey.text k = TextKey.text k' from h.1]
    split_ifs with hlt heq
    · exact .cons h (.cons hed hes)
    · exact .cons h hes
    · exact .cons hed ih

/-- Sorting puts related entries (`SameKeys`) in the same places. -/
theorem SameKeys.sortEntries {es : List (κ × ν)} {ds : List (κ' × ν')}
    (h : List.Forall₂ (SameKeys R) es ds) : List.Forall₂ (SameKeys R) (sortEntries es) (sortEntries ds) := by
  have go : ∀ {es : List (κ × ν)} {ds : List (κ' × ν')}, List.Forall₂ (SameKeys R) es ds →
      ∀ (acc : List (κ × ν)) (acc' : List (κ' × ν')), List.Forall₂ (SameKeys R) acc acc' →
        List.Forall₂ (SameKeys R) (es.foldl (fun acc e => JmapClient.insertEntry e.1 e.2 acc) acc)
          (ds.foldl (fun acc e => JmapClient.insertEntry e.1 e.2 acc) acc') := by
    intro es ds h
    induction h with
    | nil => exact fun _ _ hacc => hacc
    | cons hed _ ih => exact fun _ _ hacc => ih _ _ (hed.insertEntry hacc)
  exact go h [] [] .nil

end Related

/-- The first value of the key `k` in the entries `es`. -/
def findEntry (k : κ) (es : List (κ × ν)) : Option ν :=
  (es.find? fun e => TextKey.text e.1 == TextKey.text k).map (·.2)

theorem findEntry_cons (k : κ) (e : κ × ν) (es : List (κ × ν)) [Decidable (e.1 = k)] :
    findEntry k (e :: es) = if e.1 = k then some e.2 else findEntry k es := by
  unfold findEntry
  rw [List.find?_cons]
  split_ifs with h
  · simp [TextKey.text_beq_iff.2 h]
  · have : (TextKey.text e.1 == TextKey.text k) = false := by
      rw [Bool.eq_false_iff]
      exact fun hb => h (TextKey.text_beq_iff.1 hb)
    simp [this]

theorem findEntry_insertEntry [DecidableEq κ] (k k' : κ) (v : ν) (es : List (κ × ν)) :
    findEntry k' (insertEntry k v es) = if k' = k then some v else findEntry k' es := by
  induction es with
  | nil => simp [insertEntry, findEntry_cons, eq_comm]
  | cons e es ih =>
    unfold insertEntry
    by_cases hlt : TextKey.text k < TextKey.text e.1
    · rw [if_pos hlt, findEntry_cons k' (k, v)]
      simp only [eq_comm]
    rw [if_neg hlt]
    by_cases heq : TextKey.text k = TextKey.text e.1
    · -- The entry that is replaced has the very key.
      obtain rfl := TextKey.text_injective heq
      rw [if_pos rfl, findEntry_cons, findEntry_cons]
      by_cases hk : e.1 = k'
      · rw [if_pos hk, if_pos hk.symm]
      · rw [if_neg hk, if_neg (Ne.symm hk), if_neg hk]
    · rw [if_neg heq, findEntry_cons, findEntry_cons, ih]
      by_cases hk : e.1 = k'
      · have : k' ≠ k := fun h => heq (by rw [← h, hk])
        rw [if_pos hk, if_pos hk, if_neg this]
      · rw [if_neg hk, if_neg hk]

namespace SortedMap

variable {m : SortedMap κ ν} {k k' : κ} {v : ν}

theorem pairwise_keys (m : SortedMap κ ν) : m.keys.Pairwise TextKey.Before := by
  rw [keys, List.pairwise_map]
  exact m.increasing

theorem find?_eq_some_iff : m.find? k = some v ↔ (k, v) ∈ m.entries := by
  unfold find?
  constructor
  · intro h
    obtain ⟨e, he, rfl⟩ := Option.map_eq_some_iff.1 h
    have hkey := TextKey.text_beq_iff.1
      (List.find?_some (p := fun e : κ × ν => TextKey.text e.1 == TextKey.text k) he)
    exact hkey ▸ List.mem_of_find?_eq_some he
  · intro h
    cases he : m.entries.find? fun e => TextKey.text e.1 == TextKey.text k with
    | none => exact absurd (TextKey.text_beq_iff.2 rfl) (List.find?_eq_none.1 he _ h)
    | some e =>
      have hkey := TextKey.text_beq_iff.1
        (List.find?_some (p := fun e : κ × ν => TextKey.text e.1 == TextKey.text k) he)
      rw [m.increasing.eq_of_mem (List.mem_of_find?_eq_some he) h hkey, Option.map_some]

theorem contains_iff : m.contains k = true ↔ k ∈ m.keys := by
  simp only [contains, keys, List.any_eq_true, TextKey.text_beq_iff, List.mem_map]

theorem contains_eq_isSome_find? (m : SortedMap κ ν) (k : κ) : m.contains k = (m.find? k).isSome := by
  rw [Bool.eq_iff_iff, contains_iff, keys, List.mem_map, Option.isSome_iff_exists]
  simp only [find?_eq_some_iff]
  constructor
  · rintro ⟨⟨k, v⟩, hmem, rfl⟩
    exact ⟨v, hmem⟩
  · rintro ⟨v, hmem⟩
    exact ⟨(k, v), hmem, rfl⟩

theorem mem_keys_iff : k ∈ m.keys ↔ ∃ v, m.find? k = some v := by
  rw [← contains_iff, contains_eq_isSome_find?, Option.isSome_iff_exists]

theorem find?_insert [DecidableEq κ] (m : SortedMap κ ν) (k k' : κ) (v : ν) :
    (m.insert k v).find? k' = if k' = k then some v else m.find? k' :=
  findEntry_insertEntry k k' v m.entries

theorem find?_insert_self (m : SortedMap κ ν) (k : κ) (v : ν) : (m.insert k v).find? k = some v := by
  classical
  exact (find?_insert m k k v).trans (if_pos rfl)

theorem find?_insert_of_ne (m : SortedMap κ ν) (v : ν) (h : k' ≠ k) :
    (m.insert k v).find? k' = m.find? k' := by
  classical
  exact (find?_insert m k k' v).trans (if_neg h)

/-- Of several insertions of a key the last counts. -/
theorem find?_foldl_insert [DecidableEq κ] {β : Type} (f : β → ν) (m : SortedMap κ ν) (bs : List (κ × β)) (k : κ) :
    (bs.foldl (fun n b => n.insert b.1 (f b.2)) m).find? k = ((bs.reverse.lookup k).map f).or (m.find? k) := by
  induction bs using List.reverseRecOn with
  | nil => rfl
  | append_singleton bs b ih =>
    rw [List.foldl_concat, find?_insert, List.reverse_concat, List.lookup_cons]
    by_cases h : k = b.1
    · simp [h]
    · rw [if_neg h, beq_false_of_ne h, ih]

theorem find?_erase [DecidableEq κ] (m : SortedMap κ ν) (k k' : κ) :
    (m.erase k).find? k' = if k' = k then none else m.find? k' := by
  refine Option.ext fun v => ?_
  rw [find?_eq_some_iff, erase, List.mem_filter, bne_iff_ne, ne_eq, ← find?_eq_some_iff]
  split_ifs with h
  · simp [h]
  · simpa using fun _ => mt TextKey.text_injective h

@[simp]
theorem keys_mapValues {μ : Type} (f : κ → ν → μ) (m : SortedMap κ ν) : (m.mapValues f).keys = m.keys := by
  simp [keys, mapValues, Function.comp_def]

theorem find?_mapValues_eq_some_iff {μ : Type} {f : κ → ν → μ} {u : μ} :
    (m.mapValues f).find? k = some u ↔ ∃ v, m.find? k = some v ∧ f k v = u := by
  simp only [find?_eq_some_iff, mapValues, List.mem_map, Prod.exists, Prod.mk.injEq]
  constructor
  · rintro ⟨k, v, hmem, rfl, rfl⟩
    exact ⟨v, hmem, rfl⟩
  · rintro ⟨v, hmem, rfl⟩
    exact ⟨k, v, hmem, rfl, rfl⟩

theorem find?_ofList_eq_some_iff {es : List (κ × ν)} (h : (es.map (·.1)).Nodup) :
    (ofList es).find? k = some v ↔ (k, v) ∈ es :=
  find?_eq_some_iff.trans (sortEntries_perm h).mem_iff

/-- A map is made of its entries in any order. -/
theorem ofList_eq_of_perm {es : List (κ × ν)} (h : es.Perm m.entries) : ofList es = m := by
  have hnodup : (es.map (·.1)).Nodup := (h.map _).nodup_iff.2 m.increasing.nodup_keys
  exact ext ((increasing_sortEntries es).eq_of_perm m.increasing ((sortEntries_perm hnodup).trans h))

theorem ofList_eq_ofList_of_perm {es ds : List (κ × ν)} (h : es.Perm ds) (hds : (ds.map (·.1)).Nodup) :
    ofList es = ofList ds :=
  ofList_eq_of_perm (h.trans (sortEntries_perm hds).symm)

/-! ### Equal maps -/

/-- A map is no more than what it binds. -/
theorem eq_of_find?_eq {m n : SortedMap κ ν} (h : ∀ k, m.find? k = n.find? k) : m = n := by
  refine ext (m.increasing.eq_of_perm n.increasing ?_)
  rw [List.perm_ext_iff_of_nodup (.of_map _ m.increasing.nodup_keys) (.of_map _ n.increasing.nodup_keys)]
  rintro ⟨k, v⟩
  rw [← find?_eq_some_iff, ← find?_eq_some_iff, h]

/-- Maps that bind the same keys list them in the same way. -/
theorem keys_eq_of_contains_eq {μ : Type} {m : SortedMap κ ν} {n : SortedMap κ μ}
    (h : ∀ k, m.contains k = n.contains k) : m.keys = n.keys := by
  have hunits : m.mapValues (fun _ _ => ()) = n.mapValues fun _ _ => () := by
    refine eq_of_find?_eq fun k => Option.ext fun u => ?_
    have hk : (∃ v, m.find? k = some v) ↔ ∃ v, n.find? k = some v := by
      simp only [← Option.isSome_iff_exists, ← contains_eq_isSome_find?, h]
    simp only [find?_mapValues_eq_some_iff, and_true, hk]
  rw [← keys_mapValues (fun _ _ => ()) m, hunits, keys_mapValues]

theorem insert_comm (m : SortedMap κ ν) (h : k ≠ k') (v v' : ν) :
    (m.insert k v).insert k' v' = (m.insert k' v').insert k v := by
  classical
  refine eq_of_find?_eq fun l => ?_
  simp only [find?_insert]
  split_ifs with h₁ h₂
  · exact absurd (h₂.symm.trans h₁) h
  · rfl
  · rfl
  · rfl

theorem insert_insert (m : SortedMap κ ν) (k : κ) (v v' : ν) :
    (m.insert k v).insert k v' = m.insert k v' := by
  classical
  refine eq_of_find?_eq fun l => ?_
  simp only [find?_insert]
  split_ifs <;> rfl

/-! ### Entries between others -/

theorem ofList_concat (es : List (κ × ν)) (e : κ × ν) :
    ofList (es ++ [e]) = (ofList es).insert e.1 e.2 :=
  ext (by simp [ofList, sortEntries, insert])

/-- An entry counts as if it were the last, unless one of the later `ds` has its key. -/
theorem ofList_append_cons_of_not_mem (es : List (κ × ν)) {ds : List (κ × ν)} (v : ν)
    (h : k ∉ ds.map (·.1)) : ofList (es ++ (k, v) :: ds) = (ofList (es ++ ds)).insert k v := by
  induction ds using List.reverseRecOn with
  | nil => rw [ofList_concat, List.append_nil]
  | append_singleton ds d ih =>
    rw [List.map_append, List.mem_append, not_or, List.map_singleton, List.mem_singleton] at h
    rw [← List.cons_append, ← List.append_assoc, ofList_concat, ih h.1, insert_comm _ h.2,
      ← List.append_assoc, ofList_concat]

/-- An entry does not count if one of the later `ds` has its key. -/
theorem ofList_append_cons_of_mem (es : List (κ × ν)) {ds : List (κ × ν)} (v : ν)
    (h : k ∈ ds.map (·.1)) : ofList (es ++ (k, v) :: ds) = ofList (es ++ ds) := by
  induction ds using List.reverseRecOn with
  | nil => cases h
  | append_singleton ds d ih =>
    rw [← List.cons_append, ← List.append_assoc, ofList_concat, ← List.append_assoc, ofList_concat]
    by_cases hds : k ∈ ds.map (·.1)
    · rw [ih hds]
    · have hk : k = d.1 := by simpa [hds] using h
      rw [ofList_append_cons_of_not_mem es v hds, hk, insert_insert]

end SortedMap

end JmapClient
