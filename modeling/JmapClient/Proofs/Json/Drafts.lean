import JmapClient.Json.Record
import JmapClient.Proofs.Except
import Mathlib.Data.List.Forall2

/-!
# Drafts of well-formed documents

It can be decided whether two documents are the same (`Tree.same_iff`). A draft that can be read as a document
is the draft of that document (`Draft.eq_draft_of_tree?`), so a text without faults is read from its document
(`readText_eq_ok_iff`). What is read from the draft of a document is said here for values, lists, maps and
records.
-/

namespace JmapClient.Json

/-! ### Equality of documents -/

namespace Tree

mutual

/-- Whether two documents are the same. -/
def same : Tree → Tree → Bool
  | .null, .null => true
  | .bool a, .bool b => a == b
  | .number a, .number b => a == b
  | .string a, .string b => a == b
  | .array ts, .array us => sameAll ts us
  | .object ms, .object ns => sameMembers ms ns
  | _, _ => false
termination_by structural t => t

/-- Whether two lists of trees are the same. -/
def sameAll : List Tree → List Tree → Bool
  | [], [] => true
  | t :: ts, u :: us => t.same u && sameAll ts us
  | _, _ => false
termination_by structural ts => ts

/-- Whether two lists of members are the same. -/
def sameMembers : List (String × Tree) → List (String × Tree) → Bool
  | [], [] => true
  | (k, t) :: ms, (l, u) :: ns => k == l && t.same u && sameMembers ms ns
  | _, _ => false
termination_by structural ms => ms

end

mutual

theorem same_iff : ∀ t u : Tree, t.same u = true ↔ t = u
  | .null, u => by cases u <;> simp [same]
  | .bool _, u => by cases u <;> simp [same]
  | .number _, u => by cases u <;> simp [same]
  | .string _, u => by cases u <;> simp [same]
  | .array ts, u => by cases u <;> simp [same, sameAll_iff]
  | .object ms, u => by cases u <;> simp [same, sameMembers_iff]

theorem sameAll_iff : ∀ ts us : List Tree, sameAll ts us = true ↔ ts = us
  | [], us => by cases us <;> simp [sameAll]
  | t :: ts, us => by cases us <;> simp [sameAll, same_iff t, sameAll_iff ts]

theorem sameMembers_iff : ∀ ms ns : List (String × Tree), sameMembers ms ns = true ↔ ms = ns
  | [], ns => by cases ns <;> simp [sameMembers]
  | (k, t) :: ms, ns => by
    cases ns <;> simp [sameMembers, same_iff t, sameMembers_iff ms, Prod.ext_iff]

end

instance : DecidableEq Tree := fun t u => decidable_of_iff _ (same_iff t u)

end Tree

/-! ### Documents in drafts -/

theorem ofFault_eq_ok_iff {α : Type} {x : Except Fault α} {a : α} : ofFault x = .ok a ↔ x = .ok a := by
  cases x <;> simp [ofFault]

theorem Cut.stop_eq_ok_iff {α : Type} {cut : Option Cut} {a b : α} :
    Cut.stop cut a = .ok b ↔ cut = none ∧ a = b := by
  cases cut <;> simp [Cut.stop]

mutual

theorem Draft.eq_draft_of_tree? : ∀ {d : Draft} {t : Tree}, d.tree? = .ok t → d = t.draft
  | .null, t, h => by
    obtain rfl := Except.ok.inj h
    rfl
  | .bool _, t, h => by
    obtain rfl := Except.ok.inj h
    rfl
  | .number _, t, h => by
    obtain rfl := Except.ok.inj h
    rfl
  | .string _, t, h => by
    obtain rfl := Except.ok.inj h
    rfl
  | .bad _ _, t, h => by cases h
  | .array deep items cut, t, h => by
    cases deep with
    | true => cases h
    | false =>
      obtain ⟨ts, hts, h⟩ := bind_eq_ok_iff.1 h
      obtain ⟨rfl, rfl⟩ := Cut.stop_eq_ok_iff.1 h
      rw [Tree.draft, Draft.eq_drafts_of_trees? hts]
  | .object deep members cut, t, h => by
    cases deep with
    | true => cases h
    | false =>
      obtain ⟨ms, hms, h⟩ := bind_eq_ok_iff.1 h
      obtain ⟨rfl, rfl⟩ := Cut.stop_eq_ok_iff.1 h
      rw [Tree.draft, Draft.eq_memberDrafts_of_memberTrees? hms]

theorem Draft.eq_drafts_of_trees? :
    ∀ {ds : List Draft} {ts : List Tree}, Draft.trees? ds = .ok ts → ds = Tree.drafts ts
  | [], ts, h => by
    obtain rfl := Except.ok.inj h
    rfl
  | d :: ds, ts, h => by
    obtain ⟨t, ht, h⟩ := bind_eq_ok_iff.1 h
    obtain ⟨ts', hts, h⟩ := bind_eq_ok_iff.1 h
    obtain rfl := Except.ok.inj h
    rw [Tree.drafts, Draft.eq_draft_of_tree? ht, Draft.eq_drafts_of_trees? hts]

theorem Draft.eq_memberDrafts_of_memberTrees? :
    ∀ {ds : List (Except Fault String × Draft)} {ms : List (String × Tree)},
      Draft.memberTrees? ds = .ok ms → ds = Tree.memberDrafts ms
  | [], ms, h => by
    obtain rfl := Except.ok.inj h
    rfl
  | (key, d) :: ds, ms, h => by
    obtain ⟨k, hk, h⟩ := bind_eq_ok_iff.1 h
    obtain ⟨t, ht, h⟩ := bind_eq_ok_iff.1 h
    obtain ⟨ms', hms, h⟩ := bind_eq_ok_iff.1 h
    obtain rfl := Except.ok.inj h
    rw [Tree.memberDrafts, hk, Draft.eq_draft_of_tree? ht,
      Draft.eq_memberDrafts_of_memberTrees? hms]

end

/-- `s` spells the document `t` if and only if it is read as its draft. -/
theorem Tree.ofBytes_eq_ok_iff {s : List UInt8} {t : Tree} :
    Tree.ofBytes s = .ok t ↔ Draft.ofBytes s = (t.draft, none) := by
  unfold Tree.ofBytes
  obtain ⟨d, after⟩ := Draft.ofBytes s
  constructor
  · intro h
    obtain ⟨u, hu, h⟩ := bind_eq_ok_iff.1 h
    cases after with
    | some f => cases h
    | none =>
      obtain rfl := Except.ok.inj h
      rw [Draft.eq_draft_of_tree? hu]
  · intro h
    obtain ⟨rfl, rfl⟩ := Prod.mk.inj h
    simp [Draft.tree?_draft]

/-- From a text without faults the same is read as from its document. -/
theorem readText_eq_ok_iff {α : Type} [Readable α] {s : List UInt8} {t : Tree} {a : α}
    (h : Tree.ofBytes s = .ok t) :
    (readText s : Except Problem α) = .ok a ↔ (read t.draft : Except Problem α) = .ok a := by
  unfold readText
  rw [Tree.ofBytes_eq_ok_iff.1 h]
  cases hr : (read t.draft : Except Problem α) <;> simp [hr]

/-- What is read from a text is read from its draft. -/
theorem read_of_readText {α : Type} [Readable α] {s : List UInt8} {a : α} (h : readText s = .ok a) :
    read (Draft.ofBytes s).1 = .ok a := by
  unfold readText at h
  generalize Draft.ofBytes s = parsed at h ⊢
  obtain ⟨d, after⟩ := parsed
  cases hr : (read d : Except Problem α) with
  | error p => simp [hr] at h
  | ok b =>
    cases after with
    | some f => simp [hr] at h
    | none => simpa [hr] using h

mutual

/-- A document is passed over without a fault (`skipFault`). -/
theorem Tree.skipFault_draft : ∀ t : Tree, t.draft.skipFault = none
  | .null => rfl
  | .bool _ => rfl
  | .number _ => rfl
  | .string _ => rfl
  | .array ts => by simp [Tree.draft, Draft.skipFault, Tree.skipFaults_drafts ts]
  | .object ms => by simp [Tree.draft, Draft.skipFault, Tree.memberSkipFaults_memberDrafts ms]

theorem Tree.skipFaults_drafts : ∀ ts : List Tree, Draft.skipFaults (Tree.drafts ts) = none
  | [] => rfl
  | t :: ts => by simp [Tree.drafts, Draft.skipFaults, Tree.skipFault_draft t, Tree.skipFaults_drafts ts]

theorem Tree.memberSkipFaults_memberDrafts :
    ∀ ms : List (String × Tree), Draft.memberSkipFaults (Tree.memberDrafts ms) = none
  | [] => rfl
  | (_, t) :: ms => by
    simp [Tree.memberDrafts, Draft.memberSkipFaults, Tree.skipFault_draft t,
      Tree.memberSkipFaults_memberDrafts ms]

end

/-! ### Values, lists and maps -/

@[simp]
theorem read_value_draft (t : Tree) : (read t.draft : Except Problem Value) = .ok (.ofTree t) := by
  simp [read, Draft.tree?_draft, ofFault]

/-- A list is read item by item. -/
theorem readList_drafts_eq_ok_iff {α : Type} [Readable α] {n : Nat} {ts : List Tree} {as : List α} :
    readList n (Tree.drafts ts) = .ok as ↔
      List.Forall₂ (fun (t : Tree) a => read t.draft = .ok a) ts as := by
  induction ts generalizing n as with
  | nil => cases as <;> simp [Tree.drafts, readList]
  | cons t ts ih =>
    rw [Tree.drafts, readList]
    cases ht : (read t.draft : Except Problem α) with
    | error p => cases as <;> simp [ht]
    | ok a => cases as <;> simp [ht, map_eq_ok_iff, ih, and_comm]

theorem read_list_draft_eq_ok_iff {α : Type} [Readable α] {ts : List Tree} {as : List α} :
    (read (Tree.array ts).draft : Except Problem (List α)) = .ok as ↔
      List.Forall₂ (fun (t : Tree) a => read t.draft = .ok a) ts as := by
  have hread : (read (Tree.array ts).draft : Except Problem (List α)) =
      readList 0 (Tree.drafts ts) >>= fun as => ofFault (Cut.stop none as) := rfl
  rw [← readList_drafts_eq_ok_iff (n := 0), hread]
  cases (readList 0 (Tree.drafts ts) : Except Problem (List α)) <;> simp [Cut.stop, ofFault]

/-- The items of an array are read as values whatever they are. -/
theorem read_values_draft (ts : List Tree) :
    (read (Tree.array ts).draft : Except Problem (List Value)) = .ok (ts.map .ofTree) := by
  rw [read_list_draft_eq_ok_iff, List.forall₂_map_right_iff, List.forall₂_same]
  exact fun t _ => read_value_draft t

theorem memberDrafts_eq_map (ms : List (String × Tree)) :
    Tree.memberDrafts ms = ms.map fun m => (.ok m.1, m.2.draft) := by
  induction ms with
  | nil => rfl
  | cons m ms ih => rw [Tree.memberDrafts, ih, List.map_cons]

/-- A map is read entry by entry. -/
theorem readEntries_eq_ok_iff {κ α : Type} [TextKey κ] [Readable α] {ms : List (Except Fault String × Draft)}
    {es : List (κ × α)} :
    readEntries ms = .ok es ↔
      List.Forall₂ (fun (m : Except Fault String × Draft) e =>
        m.1 = .ok (TextKey.text e.1) ∧ read m.2 = .ok e.2) ms es := by
  induction ms generalizing es with
  | nil => cases es <;> simp [readEntries]
  | cons m ms ih =>
    obtain ⟨key, d⟩ := m
    rw [List.forall₂_cons_left_iff]
    cases key with
    | error f => simp [readEntries]
    | ok k =>
      rw [readEntries]
      cases hd : (read d : Except Problem α) with
      | error p => simp
      | ok a =>
        simp only [map_eq_ok_iff, ih]
        constructor
        · rintro ⟨es, hes, rfl⟩
          exact ⟨_, _, ⟨congrArg _ (TextKey.text_ofText k).symm, rfl⟩, hes, rfl⟩
        · rintro ⟨⟨k', a'⟩, es, ⟨hk, ha⟩, hes, rfl⟩
          obtain rfl := Except.ok.inj hk
          obtain rfl := Except.ok.inj ha
          exact ⟨es, hes, by rw [TextKey.ofText_text]⟩

theorem readEntries_memberDrafts_eq_ok_iff {κ α : Type} [TextKey κ] [Readable α]
    {ms : List (String × Tree)} {es : List (κ × α)} :
    readEntries (Tree.memberDrafts ms) = .ok es ↔
      List.Forall₂ (fun (m : String × Tree) e => TextKey.ofText m.1 = e.1 ∧ read m.2.draft = .ok e.2)
        ms es := by
  have hkey (k : String) (k' : κ) : (.ok k : Except Fault String) = .ok (TextKey.text k') ↔
      TextKey.ofText k = k' := by
    rw [Except.ok.injEq]
    constructor
    · rintro rfl
      exact TextKey.ofText_text k'
    · rintro rfl
      exact (TextKey.text_ofText k).symm
  rw [readEntries_eq_ok_iff, memberDrafts_eq_map, List.forall₂_map_left_iff]
  simp only [hkey]

theorem read_map_draft {κ α : Type} [TextKey κ] [Readable α] (ms : List (String × Tree)) :
    (read (Tree.object ms).draft : Except Problem (SortedMap κ α)) =
      (readEntries (Tree.memberDrafts ms)).map .ofList := by
  have hread : (read (Tree.object ms).draft : Except Problem (SortedMap κ α)) =
      readEntries (Tree.memberDrafts ms) >>= fun es => ofFault (Cut.stop none (.ofList es)) := rfl
  rw [hread]
  cases (readEntries (Tree.memberDrafts ms) : Except Problem (List (κ × α))) <;>
    simp [Cut.stop, ofFault]

end JmapClient.Json
