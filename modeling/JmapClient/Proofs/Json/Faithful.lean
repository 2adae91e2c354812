import JmapClient.Id
import JmapClient.Proofs.Json.Records
import JmapClient.Proofs.Maps
import JmapClient.Proofs.Decoding
import Mathlib.Data.List.Nodup

/-!
# Data that are read as they were written

Most types of data are `Faithful`: what is written of a datum is read as the very datum, and it is written if
and only if the identifiers in it are valid. Lists, options and maps of faithful types are faithful, and so
are records if each of their fields is restored from its member (`Restores`), which `<$>` and `<*>` keep.
-/

namespace JmapClient

open Json Json.Record

/-! ### Identifiers -/

namespace Id

theorem fault?_eq_none_iff {id : Id} : id.fault? = none ↔ id.Valid := by
  unfold fault? Valid
  have hsize : id.text.isEmpty = true ↔ ¬ 1 ≤ id.text.utf8ByteSize := by
    rw [String.isEmpty_iff, ← String.utf8ByteSize_eq_zero_iff]
    omega
  by_cases hempty : id.text.isEmpty
  · simp [hempty, hsize.1 hempty]
  · have hone : 1 ≤ id.text.utf8ByteSize := not_not.1 (mt hsize.2 hempty)
    by_cases hlong : maxOctets < id.text.utf8ByteSize
    · simp [hempty, hlong, Nat.not_le_of_lt hlong]
    · simp [hempty, hlong, hone, Nat.le_of_not_lt hlong]

theorem writtenText_eq_ok_iff {id : Id} {s : String} :
    id.writtenText = .ok s ↔ id.Valid ∧ id.text = s := by
  rw [← fault?_eq_none_iff, writtenText]
  cases id.fault? <;> simp

end Id

/-! ### Normal forms -/

theorem Value.read_ofTree {α : Type} [Readable α] (t : Tree) :
    (Value.ofTree t).read = (read t.normalize.draft : Except Problem α) := rfl

theorem normalizeMembers_eq_map (ms : List (String × Tree)) :
    Tree.normalizeMembers ms = ms.map fun m => (m.1, m.2.normalize) := by
  induction ms with
  | nil => rfl
  | cons m ms ih => rw [Tree.normalizeMembers, ih, List.map_cons]

/-- The members of an object in normal form are those of the object in some order, if no name is repeated. -/
theorem exists_normalize_object {ms : List (String × Tree)} (h : (ms.map (·.1)).Nodup) :
    ∃ ms', (Tree.object ms).normalize = .object ms' ∧
      ms'.Perm (ms.map fun m => (m.1, m.2.normalize)) := by
  refine ⟨_, by rw [Tree.normalize], ?_⟩
  rw [normalizeMembers_eq_map]
  refine sortEntries_perm ?_
  rwa [List.map_map]

/-- The order of members does not matter, if no name is repeated. -/
theorem normalize_object_of_perm {ms ms' : List (String × Tree)} (h : ms.Perm ms') (hn : (ms'.map (·.1)).Nodup) :
    (Tree.object ms).normalize = (Tree.object ms').normalize := by
  rw [Tree.normalize, Tree.normalize, normalizeMembers_eq_map, normalizeMembers_eq_map]
  have hsorted := SortedMap.ofList_eq_ofList_of_perm (h.map fun m => (m.1, m.2.normalize)) (by rwa [List.map_map])
  exact congrArg (fun m => Tree.object m.entries) hsorted

/-! ### Faithful types -/

/-- Data are written if and only if the identifiers in them, `ids`, are valid, and what is written is read as the data
that it was written from. -/
structure Faithful (α : Type) [Readable α] [Writable α] (ids : α → List Id) : Prop where
  written_iff : ∀ a : α, (∃ t, write a = .ok t) ↔ ∀ id ∈ ids a, id.Valid
  read_ofTree : ∀ (a : α) t, write a = .ok t → (Value.ofTree t).read = .ok a

/-- No datum of type `α` is written as `null`. -/
def NeverNull (α : Type) [Writable α] : Prop := ∀ (a : α) t, write a = .ok t → t ≠ .null

/-- A key is written as its text, if and only if the identifiers in it are valid. -/
structure FaithfulKey (κ : Type) [TextKey κ] [WritableKey κ] (ids : κ → List Id) : Prop where
  written_iff : ∀ k, (∃ s, writeKey k = .ok s) ↔ ∀ id ∈ ids k, id.Valid
  eq_text : ∀ (k : κ) s, writeKey k = .ok s → s = TextKey.text k

theorem Faithful.congr {α : Type} [Readable α] [Writable α] {ids ids' : α → List Id}
    (h : Faithful α ids) (heq : ∀ a id, id ∈ ids a ↔ id ∈ ids' a) : Faithful α ids' :=
  ⟨fun a => by simp only [← heq, h.written_iff], h.read_ofTree⟩

/-- Data without identifiers are faithful if they are always written and read back. -/
theorem Faithful.of_always {α : Type} [Readable α] [Writable α] (tree : α → Tree)
    (hwrite : ∀ a, write a = .ok (tree a)) (hread : ∀ a, (Value.ofTree (tree a)).read = .ok a) :
    Faithful α fun _ => [] where
  written_iff a := by simp [hwrite]
  read_ofTree a t h := by
    obtain rfl := Except.ok.inj ((hwrite a).symm.trans h)
    exact hread a

theorem faithful_string : Faithful String fun _ => [] :=
  .of_always .string (fun _ => rfl) fun _ => rfl

theorem faithful_bool : Faithful Bool fun _ => [] :=
  .of_always .bool (fun _ => rfl) fun _ => rfl

theorem faithful_value : Faithful Value fun _ => [] := by
  refine .of_always Value.tree (fun _ => rfl) fun v => ?_
  rw [Value.ofTree_tree, Value.read, Value.draft, read_value_draft, Value.ofTree_tree]

theorem faithful_uint64 : Faithful UInt64 fun _ => [] := by
  refine .of_always (fun n => .number (.int n.toNat)) (fun _ => rfl) fun n => ?_
  have hread : (Value.ofTree (.number (.int n.toNat))).read =
      ((readUnsigned 64 (.number (.int n.toNat))).map UInt64.ofNat : Except Problem UInt64) := rfl
  have hrange : (0 : Int) ≤ n.toNat ∧ (n.toNat : Int) < twoTo 64 := by
    have hlt : n.toNat < twoTo 64 := n.toNat_lt
    exact ⟨Int.natCast_nonneg _, Int.ofNat_lt.2 hlt⟩
  rw [hread, readUnsigned]
  simp only [hrange, and_self, if_true, Int.toNat_natCast, map_ok, UInt64.ofNat_toNat]

theorem faithful_id : Faithful Id fun id => [id] where
  written_iff id := by simp [write, map_eq_ok_iff, Id.writtenText_eq_ok_iff]
  read_ofTree id t h := by
    obtain ⟨s, hs, rfl⟩ := map_eq_ok_iff.1 h
    obtain ⟨-, rfl⟩ := Id.writtenText_eq_ok_iff.1 hs
    rfl

theorem faithfulKey_string : FaithfulKey String fun _ => [] where
  written_iff s := by simp [writeKey]
  eq_text s s' h := (Except.ok.inj h).symm

theorem faithfulKey_id : FaithfulKey Id fun id => [id] where
  written_iff id := by simp [writeKey, Id.writtenText_eq_ok_iff]
  eq_text id s h := (Id.writtenText_eq_ok_iff.1 h).2.symm

theorem faithfulKey_uri : FaithfulKey Uri fun _ => [] where
  written_iff uri := by simp [writeKey]
  eq_text uri s h := (Except.ok.inj h).symm

theorem neverNull_string : NeverNull String := fun s t h => by
  obtain rfl := Except.ok.inj h
  simp

theorem neverNull_id : NeverNull Id := fun id t h => by
  obtain ⟨s, -, rfl⟩ := map_eq_ok_iff.1 h
  simp

theorem neverNull_uint64 : NeverNull UInt64 := fun n t h => by
  obtain rfl := Except.ok.inj h
  simp

theorem neverNull_list {α : Type} [Writable α] : NeverNull (List α) := fun as t h => by
  obtain ⟨ts, -, rfl⟩ := map_eq_ok_iff.1 h
  simp

theorem neverNull_map {κ α : Type} [TextKey κ] [WritableKey κ] [Writable α] :
    NeverNull (SortedMap κ α) := fun m t h => by
  obtain ⟨ms, -, rfl⟩ := map_eq_ok_iff.1 h
  simp

/-! ### Options, lists and maps -/

section Containers

variable {α : Type} {ids : α → List Id}

theorem read_some_of_ne_null [Readable α] {t : Tree} (h : t ≠ .null) :
    ((Value.ofTree t).read : Except Problem (Option α)) = ((Value.ofTree t).read).map some := by
  cases t with
  | null => exact absurd rfl h
  | bool b => rfl
  | number n => rfl
  | string s => rfl
  | array ts => rfl
  | object ms => rfl

theorem writeList_eq_mapM [Writable α] (as : List α) : writeList as = as.mapM write := by
  induction as with
  | nil => rfl
  | cons a as ih => rw [writeList, List.mapM_cons, ih]

/-- Writes an entry of a map. -/
def writeEntry {κ : Type} [WritableKey κ] [Writable α] (e : κ × α) : Except Problem (String × Tree) := do
  let key ← writeKey e.1
  let t ← write e.2
  return (key, t)

theorem writeEntries_eq_mapM {κ : Type} [WritableKey κ] [Writable α] (es : List (κ × α)) :
    writeEntries es = es.mapM writeEntry := by
  induction es with
  | nil => rfl
  | cons e es ih =>
    rw [writeEntries, List.mapM_cons, ih, writeEntry]
    cases writeKey e.1 with
    | error p => rfl
    | ok key => cases write e.2 <;> rfl

theorem writeEntries_forall₂ {κ : Type} [TextKey κ] [WritableKey κ] [Writable α] {keyIds : κ → List Id}
    (hkey : FaithfulKey κ keyIds) {es : List (κ × α)} {ms : List (String × Tree)}
    (h : writeEntries es = .ok ms) :
    List.Forall₂ (fun (m : String × Tree) e => m.1 = TextKey.text e.1 ∧ write e.2 = .ok m.2) ms es := by
  rw [writeEntries_eq_mapM, mapM_eq_ok_iff] at h
  refine h.flip.imp fun m e hm => ?_
  simp only [writeEntry, bind_eq_ok_iff, pure_eq_ok, Except.ok.injEq] at hm
  obtain ⟨key, hkeyed, t, ht, rfl⟩ := hm
  exact ⟨hkey.eq_text _ _ hkeyed, ht⟩

/-- A map is written in the order of its keys. -/
theorem increasing_writeEntries {κ : Type} [TextKey κ] [WritableKey κ] [Writable α]
    {keyIds : κ → List Id} (hkey : FaithfulKey κ keyIds) {m : SortedMap κ α}
    {ms : List (String × Tree)} (h : writeEntries m.entries = .ok ms) : Increasing ms := by
  have hnames : ms.map (·.1) = m.entries.map fun e => TextKey.text e.1 := by
    rw [← List.forall₂_eq_eq_eq, List.forall₂_map_left_iff, List.forall₂_map_right_iff]
    exact (writeEntries_forall₂ hkey h).imp fun _ _ hd => hd.1
  have hincreasing : (m.entries.map fun e => TextKey.text e.1).Pairwise (· < ·) := by
    rw [List.pairwise_map]
    exact m.increasing
  rw [← hnames, List.pairwise_map] at hincreasing
  exact hincreasing

/-- The names are in order already, so the normal form keeps the order of the members. -/
theorem normalize_writeEntries {κ : Type} [TextKey κ] [WritableKey κ] [Writable α]
    {keyIds : κ → List Id} (hkey : FaithfulKey κ keyIds) {m : SortedMap κ α}
    {ms : List (String × Tree)} (h : writeEntries m.entries = .ok ms) :
    (Tree.object ms).normalize = .object (ms.map fun m => (m.1, m.2.normalize)) := by
  rw [Tree.normalize, normalizeMembers_eq_map, sortEntries_eq_self]
  unfold Increasing
  rw [List.pairwise_map]
  exact increasing_writeEntries hkey h

variable [Readable α] [Writable α]

theorem Faithful.option (h : Faithful α ids) (hnull : NeverNull α) :
    Faithful (Option α) fun o => o.elim [] ids where
  written_iff o := by
    cases o with
    | none => simp [write]
    | some a => exact h.written_iff a
  read_ofTree o t ht := by
    cases o with
    | none =>
      obtain rfl := Except.ok.inj ht
      rfl
    | some a =>
      have ht : write a = .ok t := ht
      rw [read_some_of_ne_null (hnull a t ht), h.read_ofTree a t ht, map_ok]

theorem Faithful.list (h : Faithful α ids) : Faithful (List α) fun as => as.flatMap ids where
  written_iff as := by
    have hwrite : (∃ t, write as = .ok t) ↔ ∃ ts, as.mapM write = .ok ts := by
      show (∃ t, (writeList as).map Tree.array = .ok t) ↔ _
      simp [map_eq_ok_iff, writeList_eq_mapM]
    rw [hwrite, exists_mapM_eq_ok_iff]
    simp only [h.written_iff, List.mem_flatMap]
    exact ⟨fun hall id ⟨a, ha, hid⟩ => hall a ha id hid, fun hall a ha id hid => hall id ⟨a, ha, hid⟩⟩
  read_ofTree as t ht := by
    obtain ⟨ts, hts, rfl⟩ := map_eq_ok_iff.1 ht
    rw [writeList_eq_mapM, mapM_eq_ok_iff] at hts
    rw [Value.read_ofTree, Tree.normalize, normalizeAll_eq_map, read_list_draft_eq_ok_iff,
      List.forall₂_map_left_iff]
    exact hts.flip.imp fun t a hta => h.read_ofTree a t hta

variable {κ : Type} [TextKey κ] [WritableKey κ] {keyIds : κ → List Id}

/-- The identifiers in a map, by those in its keys (`keyIds`) and in its values (`ids`). -/
def SortedMap.idsOf (keyIds : κ → List Id) (ids : α → List Id) (m : SortedMap κ α) : List Id :=
  m.entries.flatMap fun e => keyIds e.1 ++ ids e.2

theorem Faithful.map (hkey : FaithfulKey κ keyIds) (h : Faithful α ids) :
    Faithful (SortedMap κ α) (SortedMap.idsOf keyIds ids) where
  written_iff m := by
    have hwrite : (∃ t, write m = .ok t) ↔ ∃ ms, m.entries.mapM writeEntry = .ok ms := by
      show (∃ t, (writeEntries m.entries).map Tree.object = .ok t) ↔ _
      simp [map_eq_ok_iff, writeEntries_eq_mapM]
    have hentry (e : κ × α) : (∃ m, writeEntry e = .ok m) ↔
        ∀ id ∈ keyIds e.1 ++ ids e.2, id.Valid := by
      rw [List.forall_mem_append, ← hkey.written_iff, ← h.written_iff]
      simp [writeEntry, bind_eq_ok_iff]
    rw [hwrite, exists_mapM_eq_ok_iff, SortedMap.idsOf]
    simp only [hentry, List.mem_flatMap]
    exact ⟨fun hall id ⟨e, he, hid⟩ => hall e he id hid, fun hall e he id hid => hall id ⟨e, he, hid⟩⟩
  read_ofTree m t ht := by
    obtain ⟨ms, hms, rfl⟩ := map_eq_ok_iff.1 ht
    have hread : readEntries (Tree.memberDrafts (ms.map fun m => (m.1, m.2.normalize))) =
        .ok m.entries := by
      rw [readEntries_memberDrafts_eq_ok_iff, List.forall₂_map_left_iff]
      refine (writeEntries_forall₂ hkey hms).imp fun d e hd => ⟨?_, h.read_ofTree _ _ hd.2⟩
      rw [hd.1, TextKey.ofText_text]
    rw [Value.read_ofTree, normalize_writeEntries hkey hms, read_map_draft, hread, map_ok,
      SortedMap.ofList_entries]

end Containers

/-! ### Records -/

/-- The members of some parts of a record, written one after the other. -/
abbrev Parts : Type := List (Except Problem (List (String × Tree)))

/-- A view shows the members `ms`, with their values in a given `form`, and no other members of these `names`. -/
structure Shows (form : Tree → Tree) (names : List String) (ms : List (String × Tree))
    (view : String → Option Draft) : Prop where
  of_mem : ∀ m ∈ ms, view m.1 = some (form m.2).draft
  of_not_mem : ∀ name ∈ names, name ∉ ms.map (·.1) → view name = none

section Shows

variable {form : Tree → Tree} {names names' : List String} {ms ms' : List (String × Tree)}

/-- So it shows some of the members, if no others have certain names. -/
theorem Shows.restrict {view : String → Option Draft} (h : Shows form names ms view) (hms : ms' ⊆ ms)
    (hnames : names' ⊆ names) (hothers : ∀ name ∈ names', name ∈ ms.map (·.1) → name ∈ ms'.map (·.1)) :
    Shows form names' ms' view where
  of_mem m hm := h.of_mem m (hms hm)
  of_not_mem name hname hnot := h.of_not_mem name (hnames hname) fun hmem => hnot (hothers name hname hmem)

theorem given_nodup (names : List String) (h : (ms.map (·.1)).Nodup)
    (hperm : ms'.Perm (ms.map fun m => (m.1, form m.2))) : (given names ms').Nodup := by
  refine List.Nodup.sublist List.filter_sublist ((List.Perm.nodup_iff ?_).2 h)
  simpa [Function.comp_def] using hperm.map (·.1)

/-- An object shows the members that it has in some order, if no name is repeated. -/
theorem shows_view (names : List String) (h : (ms.map (·.1)).Nodup)
    (hperm : ms'.Perm (ms.map fun m => (m.1, form m.2))) : Shows form names ms (view ms') := by
  refine ⟨fun m hm => ?_, fun name _ hnot => ?_⟩
  · have hmem : (m.1, form m.2) ∈ ms' := hperm.mem_iff.2 (List.mem_map_of_mem hm)
    have hgiven := given_nodup (ms.map (·.1)) h hperm
    rw [view, lookup_eq_some_of_nodup hgiven (List.mem_map_of_mem hm) hmem, Option.map_some]
  · have hnone : ms'.lookup name = none := by
      rw [List.lookup_eq_none_iff]
      intro m hm
      obtain ⟨d, hd, rfl⟩ := List.mem_map.1 (hperm.mem_iff.1 hm)
      have hne : name ≠ d.1 := fun heq => hnot (heq ▸ List.mem_map_of_mem hd)
      simpa using hne
    rw [view, hnone, Option.map_none]

end Shows

/-- A datum is read back by `r` from the `parts` that are written of it, which are written if and only if a condition
holds. -/
structure Restores {α : Type} (r : Record α) (parts : Parts) (a : α) (condition : Prop) : Prop where
  lawful : r.Lawful
  written_iff : (∃ mss, parts.mapM id = .ok mss) ↔ condition
  names_sublist : ∀ mss, parts.mapM id = .ok mss → (mss.flatten.map (·.1)).Sublist r.names
  read : ∀ mss, parts.mapM id = .ok mss → r.names.Nodup → ∀ view,
    Shows Tree.normalize r.names mss.flatten view → r.ofMembers view = .ok a

namespace Restores

variable {α β : Type} {a : α} {p q : Prop} {parts : Parts}

theorem congr {r : Record α} (h : Restores r parts a p) (hpq : p ↔ q) : Restores r parts a q :=
  ⟨h.lawful, h.written_iff.trans hpq, h.names_sublist, h.read⟩

theorem map {r : Record α} (h : Restores r parts a p) (f : α → β) :
    Restores (f <$> r) parts (f a) p where
  lawful := h.lawful.map f
  written_iff := h.written_iff
  names_sublist := h.names_sublist
  read mss hmss hn view hview :=
    ofMembers_map_eq_ok_iff.2 ⟨a, h.read mss hmss hn view ⟨hview.1, hview.2⟩, rfl⟩

theorem seq {r : Record (α → β)} {s : Record α} {f : α → β} {parts' : Parts}
    (h : Restores r parts f p) (h' : Restores s parts' a q) :
    Restores (r <*> s) (parts ++ parts') (f a) (p ∧ q) where
  lawful := h.lawful.seq h'.lawful
  written_iff := by
    rw [← h.written_iff, ← h'.written_iff]
    simp [List.mapM_append, bind_eq_ok_iff]
  names_sublist mss hmss := by
    simp only [List.mapM_append, bind_eq_ok_iff, pure_eq_ok, Except.ok.injEq] at hmss
    obtain ⟨ms, hms, ms', hms', rfl⟩ := hmss
    rw [List.flatten_append, List.map_append, names_seq]
    exact (h.names_sublist ms hms).append (h'.names_sublist ms' hms')
  read mss hmss hn view hview := by
    simp only [List.mapM_append, bind_eq_ok_iff, pure_eq_ok, Except.ok.injEq] at hmss
    obtain ⟨ms, hms, ms', hms', rfl⟩ := hmss
    rw [names_seq] at hn hview
    rw [List.flatten_append] at hview
    obtain ⟨hnr, hns, hdisjoint⟩ := List.nodup_append'.1 hn
    -- Neither record has a field of the other's names, so each sees its own members only.
    have hr : Shows Tree.normalize r.names ms.flatten view := by
      refine hview.restrict (List.subset_append_left _ _) (List.subset_append_left _ _) ?_
      intro name hname hmem
      rw [List.map_append, List.mem_append] at hmem
      exact hmem.resolve_right fun hs => hdisjoint hname ((h'.names_sublist ms' hms').subset hs)
    have hs : Shows Tree.normalize s.names ms'.flatten view := by
      refine hview.restrict (List.subset_append_right _ _) (List.subset_append_right _ _) ?_
      intro name hname hmem
      rw [List.map_append, List.mem_append] at hmem
      exact hmem.resolve_left fun hr => hdisjoint ((h.names_sublist ms hms).subset hr) hname
    exact ofMembers_seq_eq_ok_iff.2
      ⟨f, a, h.read ms hms hnr view hr, h'.read ms' hms' hns view hs, rfl⟩

end Restores

section Fields

variable {α : Type} [Readable α] [Writable α] {ids : α → List Id}

theorem restores_field (h : Faithful α ids) (name : String) (absence : Absence α) (a : α) :
    Restores (field name absence) [member name a] a (∀ id ∈ ids a, id.Valid) where
  lawful := lawful_field name absence
  written_iff := by
    rw [← h.written_iff]
    simp [member, bind_eq_ok_iff]
  names_sublist mss hmss := by
    simp only [member, List.mapM_cons, id, bind_eq_ok_iff, pure_eq_ok, Except.ok.injEq] at hmss
    obtain ⟨_, ⟨t, -, rfl⟩, _, hnil, rfl⟩ := hmss
    obtain rfl := Except.ok.inj hnil
    simp
  read mss hmss _ view hview := by
    simp only [member, List.mapM_cons, id, bind_eq_ok_iff, pure_eq_ok, Except.ok.injEq] at hmss
    obtain ⟨_, ⟨t, ht, rfl⟩, _, hnil, rfl⟩ := hmss
    obtain rfl := Except.ok.inj hnil
    have hsome := hview.of_mem (name, t) (by simp)
    exact ofMembers_field_eq_ok_iff.2 (Or.inr ⟨_, hsome, h.read_ofTree a t ht⟩)

/-- A field that is left out where there is no value stands for none where it is not there. -/
theorem restores_omitted (h : Faithful α ids) (hnull : NeverNull α) (name : String)
    {absence : Absence (Option α)} (habsence : absence.fromMembers = .ok none) (o : Option α) :
    Restores (field name absence) [optionalMember name o] o (∀ id ∈ o.elim [] ids, id.Valid) := by
  cases o with
  | none =>
    refine ⟨lawful_field _ _, by simp [optionalMember, List.mapM_cons], ?_, ?_⟩
    · intro mss hmss
      obtain rfl : [[]] = mss := Except.ok.inj hmss
      simp
    · intro mss hmss _ view hview
      obtain rfl : [[]] = mss := Except.ok.inj hmss
      have habsent := hview.of_not_mem name (List.mem_singleton.2 rfl) (by simp)
      exact ofMembers_field_eq_ok_iff.2 (Or.inl ⟨habsent, habsence⟩)
  | some a => exact restores_field (h.option hnull) name _ (some a)

theorem restores_optional (h : Faithful α ids) (hnull : NeverNull α) (name : String) (o : Option α) :
    Restores (Record.optional name) [optionalMember name o] o (∀ id ∈ o.elim [] ids, id.Valid) :=
  restores_omitted h hnull name rfl o

theorem restores_nullable (h : Faithful α ids) (hnull : NeverNull α) (name : String) (o : Option α) :
    Restores (nullable name) [optionalMember name o] o (∀ id ∈ o.elim [] ids, id.Valid) :=
  restores_omitted h hnull name rfl o

theorem restores_required (h : Faithful α ids) (name : String) (a : α) :
    Restores (required name) [member name a] a (∀ id ∈ ids a, id.Valid) :=
  restores_field h name _ a

theorem restores_defaulted (h : Faithful α ids) (name : String) (a₀ a : α) :
    Restores (defaulted name a₀) [member name a] a (∀ id ∈ ids a, id.Valid) :=
  restores_field h name _ a

/-- A record is `Faithful` if its data are restored from what is written of them (`Restores`). -/
theorem Faithful.of_record {what : String} {r : Record α} {parts : α → Parts}
    (hread : ∀ d, (read d : Except Problem α) = r.read what d)
    (hwrite : ∀ a : α, write a = writeRecord (parts a)) (hnames : r.names.Nodup)
    (h : ∀ a, Restores r (parts a) a (∀ id ∈ ids a, id.Valid)) : Faithful α ids where
  written_iff a := by
    rw [← (h a).written_iff, hwrite]
    simp [writeRecord, bind_eq_ok_iff]
  read_ofTree a t ht := by
    simp only [hwrite, writeRecord, bind_eq_ok_iff, pure_eq_ok, Except.ok.injEq] at ht
    obtain ⟨mss, hmss, rfl⟩ := ht
    have hn := hnames.sublist ((h a).names_sublist mss hmss)
    obtain ⟨ms, hms, hperm⟩ := exists_normalize_object hn
    rw [Value.read_ofTree, hms, hread, (h a).lawful.read_object_draft_eq_ok_iff]
    exact ⟨given_nodup _ hn hperm, (h a).read mss hmss hnames _ (shows_view _ hn hperm)⟩

end Fields

end JmapClient
