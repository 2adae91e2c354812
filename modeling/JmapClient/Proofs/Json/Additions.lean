import JmapClient.Proofs.Json.Records
import JmapClient.Proofs.Maps

/-!
# Documents with one member more

An object in a document may gain a member (`Tree.Gains`). A map that is read from the object then has one entry
more (`Tree.Gains.read_values`). A record that is read around it is related to the former one as its fields are
(`Record.Relates`, `Record.Lawful.exists_read_replace`).
-/

namespace JmapClient.Json

open Record

/-- In a document the object at a place, which is told by names, has the member `name` with the value `v` more than in
another. -/
inductive Tree.Gains (name : String) (v : Tree) : List String → Tree → Tree → Prop
  | here (ms₁ ms₂ : List (String × Tree)) (h : name ∉ (ms₁ ++ ms₂).map (·.1)) :
    Gains name v [] (.object (ms₁ ++ ms₂)) (.object (ms₁ ++ (name, v) :: ms₂))
  | under (ms₁ ms₂ : List (String × Tree)) {key : String} {place : List String} {t t' : Tree}
    (h : Gains name v place t t') :
    Gains name v (key :: place) (.object (ms₁ ++ (key, t) :: ms₂)) (.object (ms₁ ++ (key, t') :: ms₂))

/-! ### Maps -/

section Maps

variable {κ : Type} [TextKey κ]

/-- Any object is read as a map of values. -/
theorem read_values_by_key (ms : List (String × Tree)) :
    (read (Tree.object ms).draft : Except Problem (SortedMap κ Value)) =
      .ok (.ofList (ms.map fun m => (TextKey.ofText m.1, .ofTree m.2))) := by
  have hentries : readEntries (Tree.memberDrafts ms) =
      (.ok (ms.map fun m => (TextKey.ofText m.1, .ofTree m.2)) : Except Problem (List (κ × Value))) := by
    rw [readEntries_memberDrafts_eq_ok_iff, List.forall₂_map_right_iff, List.forall₂_same]
    exact fun m _ => ⟨rfl, read_value_draft m.2⟩
  rw [read_map_draft, hentries, map_ok]

/-- A map of values has the new member as one entry more. -/
theorem Tree.Gains.read_values {k : κ} {v t t' : Tree} {m : SortedMap κ Value}
    (h : Tree.Gains (TextKey.text k) v [] t t') (hm : read t.draft = .ok m) :
    read t'.draft = .ok (m.insert k (.ofTree v)) := by
  cases h with
  | here ms₁ ms₂ hname =>
    rw [read_values_by_key] at hm ⊢
    obtain rfl := Except.ok.inj hm
    have hlater : k ∉ (ms₂.map fun m => (TextKey.ofText m.1, Value.ofTree m.2)).map (·.1) := by
      rw [List.map_map]
      rintro hmem
      obtain ⟨m, hm, rfl⟩ := List.mem_map.1 hmem
      refine hname (List.mem_map.2 ⟨m, List.mem_append_right _ hm, ?_⟩)
      exact (TextKey.text_ofText m.1).symm
    rw [List.map_append, List.map_cons, TextKey.ofText_text, List.map_append,
      SortedMap.ofList_append_cons_of_not_mem _ _ hlater]

/-- A map whose object has another value under a name binds the key to what is read of it, unless a later
member has the name as well. -/
theorem read_map_replace {α : Type} [Readable α] {name : String} {t : Tree} {ms₁ ms₂ : List (String × Tree)}
    {m : SortedMap κ α} (hm : read (Tree.object (ms₁ ++ (name, t) :: ms₂)).draft = .ok m) :
    ∃ a, read t.draft = .ok a ∧ ∀ (t' : Tree) a', read t'.draft = .ok a' →
      read (Tree.object (ms₁ ++ (name, t') :: ms₂)).draft = .ok m ∨
        m.find? (TextKey.ofText name) = some a ∧
          read (Tree.object (ms₁ ++ (name, t') :: ms₂)).draft = .ok (m.insert (TextKey.ofText name) a') := by
  rw [read_map_draft] at hm
  obtain ⟨es, hes, rfl⟩ := map_eq_ok_iff.1 hm
  rw [readEntries_memberDrafts_eq_ok_iff, forall₂_append_left_iff] at hes
  obtain ⟨es₁, _, h₁, hes, rfl⟩ := hes
  obtain ⟨⟨k, a⟩, es₂, ⟨rfl, ha⟩, h₂, rfl⟩ := List.forall₂_cons_left_iff.1 hes
  refine ⟨a, ha, fun t' a' ha' => ?_⟩
  have hread : read (Tree.object (ms₁ ++ (name, t') :: ms₂)).draft =
      (.ok (.ofList (es₁ ++ (TextKey.ofText name, a') :: es₂)) : Except Problem (SortedMap κ α)) := by
    have hentries : readEntries (Tree.memberDrafts (ms₁ ++ (name, t') :: ms₂)) =
        (.ok (es₁ ++ (TextKey.ofText name, a') :: es₂) : Except Problem (List (κ × α))) := by
      rw [readEntries_memberDrafts_eq_ok_iff, forall₂_append_left_iff]
      exact ⟨es₁, _, h₁, List.forall₂_cons.2 ⟨⟨rfl, ha'⟩, h₂⟩, rfl⟩
    rw [read_map_draft, hentries, map_ok]
  rw [hread]
  by_cases hlater : (TextKey.ofText name : κ) ∈ es₂.map (·.1)
  · rw [SortedMap.ofList_append_cons_of_mem _ _ hlater, SortedMap.ofList_append_cons_of_mem _ _ hlater]
    exact Or.inl rfl
  · rw [SortedMap.ofList_append_cons_of_not_mem _ _ hlater,
      SortedMap.ofList_append_cons_of_not_mem _ _ hlater, SortedMap.insert_insert]
    exact Or.inr ⟨SortedMap.find?_insert_self _ _ _, rfl⟩

end Maps

/-! ### Records -/

section Records

variable {α : Type} {names : List String} {name : String} {t t' : Tree} {ms₁ ms₂ : List (String × Tree)}

theorem given_append_cons (names : List String) (name : String) (t t' : Tree)
    (ms₁ ms₂ : List (String × Tree)) :
    given names (ms₁ ++ (name, t') :: ms₂) = given names (ms₁ ++ (name, t) :: ms₂) := by
  simp [given]

theorem view_append_cons_self (hn : (given names (ms₁ ++ (name, t) :: ms₂)).Nodup) (hname : name ∈ names) :
    view (ms₁ ++ (name, t) :: ms₂) name = some t.draft := by
  have hmem : (name, t) ∈ ms₁ ++ (name, t) :: ms₂ := by simp
  rw [view, lookup_eq_some_of_nodup hn hname hmem, Option.map_some]

theorem view_append_cons_of_ne {k : String} (h : k ≠ name) :
    view (ms₁ ++ (name, t) :: ms₂) k = view (ms₁ ++ ms₂) k := by
  have hlookup : (ms₁ ++ (name, t) :: ms₂).lookup k = (ms₁ ++ ms₂).lookup k := by
    induction ms₁ with
    | nil => simp [List.lookup_cons, beq_false_of_ne h]
    | cons m ms₁ ih =>
      obtain ⟨name', t'⟩ := m
      rw [List.cons_append, List.lookup_cons, ih, List.cons_append, List.lookup_cons]
  rw [view, view, hlookup]

/-- Whatever `r` makes of one view, it makes something related to it of another. -/
def Record.Relates (r : Record α) (view view' : String → Option Draft) (R : α → α → Prop) : Prop :=
  ∀ a, r.ofMembers view = .ok a → ∃ a', r.ofMembers view' = .ok a' ∧ R a a'

namespace Record.Relates

variable {β : Type} {view view' : String → Option Draft} {R : α → α → Prop} {Q : β → β → Prop}

theorem map {r : Record α} (h : r.Relates view view' R) {f : α → β}
    (hf : ∀ a a', R a a' → Q (f a) (f a')) : (f <$> r).Relates view view' Q := by
  intro b hb
  obtain ⟨a, ha, rfl⟩ := ofMembers_map_eq_ok_iff.1 hb
  obtain ⟨a', ha', hR⟩ := h a ha
  exact ⟨f a', ofMembers_map_eq_ok_iff.2 ⟨a', ha', rfl⟩, hf a a' hR⟩

theorem seq {r : Record (α → β)} {s : Record α}
    (hr : r.Relates view view' fun f f' => ∀ a a', R a a' → Q (f a) (f' a'))
    (hs : s.Relates view view' R) : (r <*> s).Relates view view' Q := by
  intro b hb
  obtain ⟨f, a, hf, ha, rfl⟩ := ofMembers_seq_eq_ok_iff.1 hb
  obtain ⟨f', hf', hQ⟩ := hr f hf
  obtain ⟨a', ha', hR⟩ := hs a ha
  exact ⟨f' a', ofMembers_seq_eq_ok_iff.2 ⟨f', a', hf', ha', rfl⟩, hQ a a' hR⟩

variable [Readable α] {absence : Absence α}

theorem field_of_eq (h : view' name = view name) : (field name absence).Relates view view' Eq := by
  intro a ha
  rw [ofMembers_field_eq_ok_iff, ← h, ← ofMembers_field_eq_ok_iff] at ha
  exact ⟨a, ha, rfl⟩

theorem field_of_read {d d' : Draft} (hview : view name = some d) (hview' : view' name = some d')
    (h : ∀ a, Readable.read d = .ok a → ∃ a', Readable.read d' = .ok a' ∧ R a a') :
    (field name absence).Relates view view' R := by
  intro a ha
  rcases ofMembers_field_eq_ok_iff.1 ha with ⟨hnone, -⟩ | ⟨d₀, hd₀, hread⟩
  · rw [hview] at hnone
    cases hnone
  · obtain rfl := Option.some.inj (hview.symm.trans hd₀)
    obtain ⟨a', ha', hR⟩ := h a hread
    exact ⟨a', ofMembers_field_eq_ok_iff.2 (Or.inr ⟨d', hview', ha'⟩), hR⟩

end Record.Relates

/-- What a record is read as from an object with another value under one of its names. -/
theorem Record.Lawful.exists_read_replace {r : Record α} (hr : r.Lawful) {what : String} {a : α}
    {R : α → α → Prop} (hname : name ∈ r.names)
    (h : r.read what (Tree.object (ms₁ ++ (name, t) :: ms₂)).draft = .ok a)
    (hrelates : ∀ view view', view name = some t.draft → view' name = some t'.draft →
      (∀ k, k ≠ name → view' k = view k) → r.Relates view view' R) :
    ∃ a', r.read what (Tree.object (ms₁ ++ (name, t') :: ms₂)).draft = .ok a' ∧ R a a' := by
  obtain ⟨hn, ha⟩ := hr.read_object_draft_eq_ok_iff.1 h
  have hn' : (given r.names (ms₁ ++ (name, t') :: ms₂)).Nodup := by rwa [given_append_cons _ _ t]
  have hsame : ∀ k, k ≠ name →
      view (ms₁ ++ (name, t') :: ms₂) k = view (ms₁ ++ (name, t) :: ms₂) k := fun k hk => by
    rw [view_append_cons_of_ne hk, view_append_cons_of_ne hk]
  obtain ⟨a', ha', hR⟩ := hrelates _ _ (view_append_cons_self hn hname)
    (view_append_cons_self hn' hname) hsame a ha
  exact ⟨a', hr.read_object_draft_eq_ok_iff.2 ⟨hn', ha'⟩, hR⟩

end Records

end JmapClient.Json
