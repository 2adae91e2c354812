import JmapClient.Proofs.Json.Faithful
import Mathlib.Data.List.Perm.Basic

/-!
# Members in any order

A document in which no object repeats a name (`Tree.Unrepeated`) is read as its value is, in whatever order the
members are (`Orderless`). So it is for maps of such data (`Orderless.map`), and for records whose fields are
such data (`Orderless.of_record`), which `<$>` and `<*>` keep. No name is repeated in what is written
(`WrittenOnce`), which the same constructions keep.
-/

namespace JmapClient

open Json Json.Record

/-! ### Documents that repeat no name -/

namespace Json.Tree

mutual

/-- No object in the tree repeats a name. -/
def Unrepeated : Tree → Prop
  | .array ts => AllUnrepeated ts
  | .object ms => MembersUnrepeated ms ∧ (ms.map (·.1)).Nodup
  | _ => True
termination_by structural t => t

/-- No tree of a list repeats a name. -/
def AllUnrepeated : List Tree → Prop
  | [] => True
  | t :: ts => t.Unrepeated ∧ AllUnrepeated ts
termination_by structural ts => ts

/-- The value of no member repeats a name. -/
def MembersUnrepeated : List (String × Tree) → Prop
  | [] => True
  | (_, t) :: ms => t.Unrepeated ∧ MembersUnrepeated ms
termination_by structural ms => ms

end

theorem allUnrepeated_iff {ts : List Tree} : AllUnrepeated ts ↔ ∀ t ∈ ts, t.Unrepeated := by
  induction ts with
  | nil => simp [AllUnrepeated]
  | cons t ts ih => simp [AllUnrepeated, ih]

theorem membersUnrepeated_iff {ms : List (String × Tree)} :
    MembersUnrepeated ms ↔ ∀ m ∈ ms, m.2.Unrepeated := by
  induction ms with
  | nil => simp [MembersUnrepeated]
  | cons m ms ih => simp [MembersUnrepeated, ih]

mutual

/-- A `Canonical` tree repeats no name. -/
theorem Canonical.unrepeated : ∀ {t : Tree}, t.Canonical → t.Unrepeated
  | .array ts, h => by
    rw [Canonical] at h
    rw [Unrepeated]
    exact AllCanonical.unrepeated h
  | .object ms, h => by
    rw [Canonical] at h
    rw [Unrepeated]
    exact ⟨MembersCanonical.unrepeated h.1, h.2.nodup_keys⟩
  | .null, _ => by simp [Unrepeated]
  | .bool _, _ => by simp [Unrepeated]
  | .number _, _ => by simp [Unrepeated]
  | .string _, _ => by simp [Unrepeated]

theorem AllCanonical.unrepeated : ∀ {ts : List Tree}, AllCanonical ts → AllUnrepeated ts
  | [], _ => by simp [AllUnrepeated]
  | t :: ts, h => by
    rw [AllCanonical] at h
    rw [AllUnrepeated]
    exact ⟨Canonical.unrepeated h.1, AllCanonical.unrepeated h.2⟩

theorem MembersCanonical.unrepeated : ∀ {ms : List (String × Tree)}, MembersCanonical ms → MembersUnrepeated ms
  | [], _ => by simp [MembersUnrepeated]
  | (_, t) :: ms, h => by
    rw [MembersCanonical] at h
    rw [MembersUnrepeated]
    exact ⟨Canonical.unrepeated h.1, MembersCanonical.unrepeated h.2⟩

end

end Json.Tree

/-! ### Reading -/

/-- Where no name is repeated the order of members does not matter. -/
def Orderless (α : Type) [Readable α] : Prop :=
  ∀ (t : Tree) (a : α), t.Unrepeated → read t.normalize.draft = .ok a → read t.draft = .ok a

theorem orderless_value : Orderless Value := by
  intro t v _ h
  rw [read_value_draft, ofTree_normalize] at h
  rw [read_value_draft, h]

theorem orderless_string : Orderless String := by
  intro t s _ h
  cases t with
  | string s' => exact h
  | null | bool _ | number _ | array _ | object _ => cases h

theorem orderless_bool : Orderless Bool := by
  intro t b _ h
  cases t with
  | bool b' => exact h
  | null | string _ | number _ | array _ | object _ => cases h

theorem orderless_id : Orderless Id := by
  intro t id ht h
  obtain ⟨s, hs, rfl⟩ := map_eq_ok_iff.1 h
  exact map_eq_ok_iff.2 ⟨s, orderless_string t s ht hs, rfl⟩

theorem Orderless.map {κ α : Type} [TextKey κ] [Readable α] (h : Orderless α) : Orderless (SortedMap κ α) := by
  intro t m ht hm
  cases t with
  | object ms =>
    rw [Tree.Unrepeated, Tree.membersUnrepeated_iff] at ht
    obtain ⟨sorted, hsorted, hperm⟩ := exists_normalize_object ht.2
    rw [hsorted, read_map_draft] at hm
    obtain ⟨es, hes, rfl⟩ := map_eq_ok_iff.1 hm
    rw [readEntries_memberDrafts_eq_ok_iff] at hes
    obtain ⟨ds, hds, hpermEntries⟩ := List.perm_comp_forall₂ hperm.symm hes
    rw [List.forall₂_map_left_iff] at hds
    have hread : readEntries (Tree.memberDrafts ms) = .ok ds := by
      rw [readEntries_memberDrafts_eq_ok_iff]
      refine ((List.forall₂_and_left ms ds).2 ⟨ht.1, hds⟩).imp fun m e hme => ?_
      exact ⟨hme.2.1, h m.2 e.2 hme.1 hme.2.2⟩
    have hkeys : (ms.map fun m => TextKey.ofText m.1) = ds.map (·.1) := by
      rw [← List.forall₂_eq_eq_eq, List.forall₂_map_left_iff, List.forall₂_map_right_iff]
      exact hds.imp fun _ _ hme => hme.1
    have hnodup : (ds.map (·.1)).Nodup := by
      have hinjective : Function.Injective (TextKey.ofText : String → κ) := fun k l hkl => by
        rw [← TextKey.text_ofText (κ := κ) k, hkl, TextKey.text_ofText]
      have hofText := ht.2.map hinjective
      rwa [List.map_map, Function.comp_def, hkeys] at hofText
    rw [read_map_draft, hread, map_ok]
    exact congrArg _ (SortedMap.ofList_eq_ofList_of_perm hpermEntries.symm hnodup).symm
  | null | bool _ | string _ | number _ | array _ => cases hm

/-- What `r` is read as does not depend on the order of members. In an array the items that are left for further fields
are the same. -/
structure Json.Record.Orderless {α : Type} (r : Record α) : Prop where
  lawful : r.Lawful
  of_members : ∀ ms view view' a, (∀ m ∈ ms, m.2.Unrepeated) → Shows Tree.normalize r.names ms view →
    Shows id r.names ms view' → r.ofMembers view = .ok a → r.ofMembers view' = .ok a
  of_row : ∀ what index ts a rest, (∀ t ∈ ts, t.Unrepeated) →
    r.ofRow what ⟨index, Tree.drafts (ts.map Tree.normalize), none⟩ = .ok (a, rest) →
    ∃ index' us, us ⊆ ts ∧ rest = ⟨index', Tree.drafts (us.map Tree.normalize), none⟩ ∧
      r.ofRow what ⟨index, Tree.drafts ts, none⟩ = .ok (a, ⟨index', Tree.drafts us, none⟩)

namespace Json.Record.Orderless

variable {α β : Type}

theorem map {r : Record α} (h : r.Orderless) (f : α → β) : (f <$> r).Orderless where
  lawful := h.lawful.map f
  of_members ms view view' b hms hview hview' hb := by
    obtain ⟨a, ha, rfl⟩ := ofMembers_map_eq_ok_iff.1 hb
    exact ofMembers_map_eq_ok_iff.2 ⟨a, h.of_members ms view view' a hms hview hview' ha, rfl⟩
  of_row what index ts b rest hts hb := by
    obtain ⟨a, ha, rfl⟩ := ofRow_map_eq_ok_iff.1 hb
    obtain ⟨index', us, hus, hrest, hrow⟩ := h.of_row what index ts a rest hts ha
    exact ⟨index', us, hus, hrest, ofRow_map hrow f⟩

theorem seq {r : Record (α → β)} {s : Record α} (hr : r.Orderless) (hs : s.Orderless) :
    (r <*> s).Orderless where
  lawful := hr.lawful.seq hs.lawful
  of_members ms view view' b hms hview hview' hb := by
    rw [names_seq] at hview hview'
    have hleft := List.subset_append_left r.names s.names
    have hright := List.subset_append_right r.names s.names
    obtain ⟨f, a, hf, ha, rfl⟩ := ofMembers_seq_eq_ok_iff.1 hb
    refine ofMembers_seq_eq_ok_iff.2 ⟨f, a, ?_, ?_, rfl⟩
    · exact hr.of_members ms view view' f hms (hview.restrict (List.Subset.refl _) hleft fun _ _ h => h)
        (hview'.restrict (List.Subset.refl _) hleft fun _ _ h => h) hf
    · exact hs.of_members ms view view' a hms (hview.restrict (List.Subset.refl _) hright fun _ _ h => h)
        (hview'.restrict (List.Subset.refl _) hright fun _ _ h => h) ha
  of_row what index ts b rest hts hb := by
    obtain ⟨f, a, middle, hf, ha, rfl⟩ := ofRow_seq_eq_ok_iff.1 hb
    obtain ⟨index', us, hus, rfl, hrowr⟩ := hr.of_row what index ts f middle hts hf
    obtain ⟨index'', vs, hvs, hrest, hrows⟩ :=
      hs.of_row what index' us a rest (fun u hu => hts u (hus hu)) ha
    exact ⟨index'', vs, List.Subset.trans hvs hus, hrest, ofRow_seq hrowr hrows⟩

theorem of_field [Readable α] (h : JmapClient.Orderless α) (name : String) (absence : Absence α) :
    (field name absence).Orderless where
  lawful := lawful_field name absence
  of_members ms view view' a hms hview hview' ha := by
    by_cases hname : name ∈ ms.map (·.1)
    · obtain ⟨m, hm, rfl⟩ := List.mem_map.1 hname
      have hgiven := hview.of_mem m hm
      rcases ofMembers_field_eq_ok_iff.1 ha with ⟨hnone, -⟩ | ⟨d, hd, hread⟩
      · rw [hgiven] at hnone
        cases hnone
      · obtain rfl := Option.some.inj (hgiven.symm.trans hd)
        exact ofMembers_field_eq_ok_iff.2 (Or.inr ⟨_, hview'.of_mem m hm, h m.2 a (hms m hm) hread⟩)
    · have hnone := hview.of_not_mem name (List.mem_singleton.2 rfl) hname
      have hnone' := hview'.of_not_mem name (List.mem_singleton.2 rfl) hname
      have hsame : view' name = view name := hnone'.trans hnone.symm
      rw [ofMembers_field_eq_ok_iff] at ha ⊢
      rwa [hsame]
  of_row what index ts a rest hts ha := by
    rcases ofRow_field_eq_ok_iff.1 ha with ⟨hitems, -, hnone, rfl⟩ | ⟨d, ds, hitems, hread, rfl⟩
    · cases ts with
      | cons t ts => cases hitems
      | nil =>
        refine ⟨index + 1, [], List.Subset.refl _, rfl, ?_⟩
        exact ofRow_field_eq_ok_iff.2 (Or.inl ⟨rfl, rfl, hnone, rfl⟩)
    · cases ts with
      | nil => cases hitems
      | cons t ts =>
        obtain ⟨rfl, rfl⟩ := List.cons.inj hitems
        refine ⟨index + 1, ts, List.subset_cons_self t ts, rfl, ofRow_field ?_⟩
        exact h t a (hts t List.mem_cons_self) hread

end Json.Record.Orderless

theorem Orderless.of_record {α : Type} [Readable α] {what : String} {r : Record α}
    (hread : ∀ d, (read d : Except Problem α) = r.read what d) (h : r.Orderless) : Orderless α := by
  intro t a ht ha
  rw [hread] at ha ⊢
  cases t with
  | object ms =>
    rw [Tree.Unrepeated, Tree.membersUnrepeated_iff] at ht
    obtain ⟨sorted, hsorted, hperm⟩ := exists_normalize_object ht.2
    rw [hsorted, h.lawful.read_object_draft_eq_ok_iff] at ha
    have hself : ms.Perm (ms.map fun m => (m.1, id m.2)) := by
      simp
    rw [h.lawful.read_object_draft_eq_ok_iff]
    exact ⟨given_nodup _ ht.2 hself,
      h.of_members ms _ _ a ht.1 (shows_view _ ht.2 hperm) (shows_view _ ht.2 hself) ha.2⟩
  | array ts =>
    rw [Tree.Unrepeated] at ht
    rw [Tree.normalize, normalizeAll_eq_map] at ha
    rw [Tree.allUnrepeated_iff] at ht
    obtain ⟨-, rest, hrow, hrest⟩ := readRow_eq_ok_iff.1 ha
    obtain ⟨index, us, -, rfl, hrow'⟩ := h.of_row _ _ _ _ _ ht hrow
    refine readRow_eq_ok_iff.2 ⟨rfl, _, hrow', ?_⟩
    cases us with
    | nil => rfl
    | cons u us => cases hrest
  | null | bool _ | string _ | number _ => cases ha

/-! ### Writing -/

/-- What is written of data of type `α` repeats no name. -/
def WrittenOnce (α : Type) [Writable α] : Prop := ∀ (a : α) t, write a = .ok t → t.Unrepeated

theorem writtenOnce_value : WrittenOnce Value := by
  intro v t h
  obtain rfl := Except.ok.inj h
  exact v.canonical.unrepeated

theorem writtenOnce_string : WrittenOnce String := by
  intro s t h
  obtain rfl := Except.ok.inj h
  simp [Tree.Unrepeated]

theorem writtenOnce_bool : WrittenOnce Bool := by
  intro b t h
  obtain rfl := Except.ok.inj h
  simp [Tree.Unrepeated]

theorem writtenOnce_id : WrittenOnce Id := by
  intro id t h
  obtain ⟨s, -, rfl⟩ := map_eq_ok_iff.1 h
  simp [Tree.Unrepeated]

theorem WrittenOnce.map {κ α : Type} [TextKey κ] [WritableKey κ] [Writable α] {keyIds : κ → List Id}
    (hkey : FaithfulKey κ keyIds) (h : WrittenOnce α) : WrittenOnce (SortedMap κ α) := by
  intro m t ht
  obtain ⟨ms, hms, rfl⟩ := map_eq_ok_iff.1 ht
  rw [Tree.Unrepeated, Tree.membersUnrepeated_iff]
  refine ⟨fun d hd => ?_, (increasing_writeEntries hkey hms).nodup_keys⟩
  obtain ⟨e, -, -, hwrite⟩ := exists_mem_of_forall₂ (writeEntries_forall₂ hkey hms) hd
  exact h e.2 d.2 hwrite

section Records

variable {α : Type} [Writable α]

/-- No value of what is written for a part of a record repeats a name. -/
def PartOnce (part : Except Problem (List (String × Tree))) : Prop :=
  ∀ ms, part = .ok ms → ∀ m ∈ ms, m.2.Unrepeated

theorem WrittenOnce.member (h : WrittenOnce α) (name : String) (a : α) : PartOnce (member name a) := by
  intro ms hms m hm
  obtain ⟨t, ht, hms⟩ := bind_eq_ok_iff.1 hms
  obtain rfl := Except.ok.inj hms
  obtain rfl := List.mem_singleton.1 hm
  exact h a t ht

theorem WrittenOnce.of_record [Readable α] {r : Record α} {parts : α → Parts} {condition : α → Prop}
    (hwrite : ∀ a : α, write a = writeRecord (parts a)) (hnames : r.names.Nodup)
    (h : ∀ a, Restores r (parts a) a (condition a)) (honce : ∀ a, ∀ part ∈ parts a, PartOnce part) :
    WrittenOnce α := by
  intro a t ht
  rw [hwrite] at ht
  obtain ⟨mss, hmss, ht⟩ := bind_eq_ok_iff.1 ht
  obtain rfl := Except.ok.inj ht
  rw [Tree.Unrepeated, Tree.membersUnrepeated_iff]
  refine ⟨fun m hm => ?_, hnames.sublist ((h a).names_sublist mss hmss)⟩
  obtain ⟨ms, hms, hm⟩ := List.mem_flatten.1 hm
  rw [mapM_eq_ok_iff] at hmss
  obtain ⟨part, hpart, hok⟩ := exists_mem_of_forall₂ hmss.flip hms
  exact honce a part hpart ms hok m hm

end Records

end JmapClient
