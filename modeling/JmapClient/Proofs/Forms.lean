import JmapClient.Comparator
import JmapClient.Filter
import JmapClient.Proofs.Json.Faithful
import JmapClient.Records.Set

/-!
# What is written of data

Nothing but identifiers keeps data from being written. A `Form` of a type tells, for each datum, which identifiers are
in it and what is written of it if they are valid: each of them as it is. Forms of lists, maps and filters are made of
forms of what is in them. What is written of a record's parts is told by what is given for each of them
(`Given`, `guards_writeRecord`).
-/

namespace JmapClient

open Json

variable {α β : Type}

/-! ### Results that wait on identifiers -/

/-- A result is there if and only if identifiers are valid, and it is `b` then. -/
structure Guards (x : Except Problem β) (ids : List Id) (b : β) : Prop where
  eq_ok : (∀ id ∈ ids, id.Valid) → x = .ok b
  valid : ∀ b', x = .ok b' → ∀ id ∈ ids, id.Valid

namespace Guards

variable {x : Except Problem α} {ids ids' : List Id} {a : α} {b : β}

theorem ok (a : α) : Guards (.ok a) [] a where
  eq_ok _ := rfl
  valid := by simp

theorem congr (h : Guards x ids a) (hids : ∀ id, id ∈ ids ↔ id ∈ ids') : Guards x ids' a where
  eq_ok hvalid := h.eq_ok fun id hid => hvalid id ((hids id).1 hid)
  valid a' ha' id hid := h.valid a' ha' id ((hids id).2 hid)

theorem eq_of_eq_ok (h : Guards x ids a) {a' : α} (ha' : x = .ok a') : a' = a :=
  Except.ok.inj (ha'.symm.trans (h.eq_ok (h.valid a' ha')))

theorem bind {f : α → Except Problem β} (h : Guards x ids a) (h' : Guards (f a) ids' b) :
    Guards (x >>= f) (ids ++ ids') b where
  eq_ok hvalid := by
    rw [List.forall_mem_append] at hvalid
    rw [h.eq_ok hvalid.1, ok_bind]
    exact h'.eq_ok hvalid.2
  valid b' hb' := by
    obtain ⟨a', ha', hb'⟩ := bind_eq_ok_iff.1 hb'
    obtain rfl := h.eq_of_eq_ok ha'
    rw [List.forall_mem_append]
    exact ⟨h.valid a' ha', h'.valid b' hb'⟩

theorem map (h : Guards x ids a) (f : α → β) : Guards (x.map f) ids (f a) where
  eq_ok hvalid := by rw [h.eq_ok hvalid, map_ok]
  valid b' hb' := by
    obtain ⟨a', ha', -⟩ := map_eq_ok_iff.1 hb'
    exact h.valid a' ha'

theorem mapM {f : α → Except Problem β} {idsOf : α → List Id} {g : α → β}
    (h : ∀ a, Guards (f a) (idsOf a) (g a)) (as : List α) : Guards (as.mapM f) (as.flatMap idsOf) (as.map g) := by
  induction as with
  | nil => exact ok []
  | cons a as ih =>
    rw [List.mapM_cons, List.flatMap_cons, ← List.append_nil (as.flatMap idsOf)]
    exact (h a).bind (ih.bind (ok _))

theorem exists_ok_iff (h : Guards x ids a) : (∃ a', x = .ok a') ↔ ∀ id ∈ ids, id.Valid :=
  ⟨fun ⟨a', ha'⟩ => h.valid a' ha', fun hvalid => ⟨a, h.eq_ok hvalid⟩⟩

end Guards

/-! ### Forms -/

/-- What is written of the data of type `α`, if the identifiers in them are `Valid`. -/
structure Form (α : Type) [Writable α] where
  ids : α → List Id
  tree : α → Tree
  guards : ∀ a, Guards (write a) (ids a) (tree a)

namespace Form

/-- The form of data without identifiers. -/
def plain [Writable α] (tree : α → Tree) (h : ∀ a, write a = .ok (tree a)) : Form α where
  ids _ := []
  tree := tree
  guards a := by
    rw [h a]
    exact .ok _

/-- Texts are written as they are. -/
def string : Form String := plain .string fun _ => rfl

/-- Truth values are written as they are. -/
def bool : Form Bool := plain .bool fun _ => rfl

/-- Numbers without a sign are written as they are. -/
def uint64 : Form UInt64 := plain (fun n => .number (.int n.toNat)) fun _ => rfl

/-- Numbers with a sign are written as they are. -/
def int64 : Form Int64 := plain (fun n => .number (.int n.toInt)) fun _ => rfl

/-- Values are written as they are. -/
def value : Form Value := plain Value.tree fun _ => rfl

/-- An identifier is written as its text. -/
def id : Form Id where
  ids id := [id]
  tree id := .string id.text
  guards id := by
    refine Guards.map ⟨fun hvalid => ?_, fun s hs => ?_⟩ Tree.string
    · rw [Id.writtenText_eq_ok_iff]
      exact ⟨hvalid id (by simp), rfl⟩
    · simpa using (Id.writtenText_eq_ok_iff.1 hs).1

/-- The name of a capability is written as its text. -/
def uri : Form Uri := plain (fun uri => .string uri.text) fun _ => rfl

/-- What is not there is written as `null`. -/
def nullable [Writable α] (f : Form α) : Form (Option α) where
  ids o := o.elim [] f.ids
  tree o := o.elim .null f.tree
  guards o := by
    cases o with
    | none => exact .ok _
    | some a => exact f.guards a

/-- A list is written as the list of what `f` writes of its items. -/
def list [Writable α] (f : Form α) : Form (List α) where
  ids as := as.flatMap f.ids
  tree as := .array (as.map f.tree)
  guards as := by
    refine Guards.map ?_ Tree.array
    rw [writeList_eq_mapM]
    exact .mapM f.guards as

/-- Entries are written as members under the texts of their keys, in the order they stand in. -/
theorem guards_writeEntries {κ : Type} [TextKey κ] [WritableKey κ] [Writable α] {keyIds : κ → List Id}
    (hkey : FaithfulKey κ keyIds) (f : Form α) (es : List (κ × α)) :
    Guards (writeEntries es) (es.flatMap fun e => keyIds e.1 ++ f.ids e.2)
      (es.map fun e => (TextKey.text e.1, f.tree e.2)) := by
  rw [writeEntries_eq_mapM]
  refine .mapM (fun e => ?_) es
  have hwritten : Guards (writeKey e.1) (keyIds e.1) (TextKey.text e.1) := by
    refine ⟨fun hvalid => ?_, fun s hs => (hkey.written_iff e.1).1 ⟨s, hs⟩⟩
    obtain ⟨s, hs⟩ := (hkey.written_iff e.1).2 hvalid
    rw [hs, hkey.eq_text e.1 s hs]
  rw [← List.append_nil (f.ids e.2)]
  exact hwritten.bind ((f.guards e.2).bind (.ok _))

/-- A map is written with a member for each entry, under the text of its key. -/
def map {κ : Type} [TextKey κ] [WritableKey κ] [Writable α] {keyIds : κ → List Id} (hkey : FaithfulKey κ keyIds)
    (f : Form α) : Form (SortedMap κ α) where
  ids := SortedMap.idsOf keyIds f.ids
  tree m := .object (m.entries.map fun e => (TextKey.text e.1, f.tree e.2))
  guards m := by exact (guards_writeEntries hkey f m.entries).map Tree.object

end Form

/-! ### Records -/

/-- What is given for a part of a record: a value, or a reference to one. -/
structure Given where
  isReference : Bool
  ids : List Id
  tree : Tree

namespace Given

/-- The name of the member for what is given under a name: a reference has a `#` in front of it. -/
def key (g : Given) (name : String) : String := if g.isReference then "#" ++ name else name

/-- The identifiers in all that is `given`. -/
def idsOf (given : List (String × Option Given)) : List Id := given.flatMap fun d => d.2.elim [] ids

/-- The members for all that is `given`. -/
def members (given : List (String × Option Given)) : List (String × Tree) :=
  given.flatMap fun d => d.2.toList.map fun g => (g.key d.1, g.tree)

theorem mem_members_iff {given : List (String × Option Given)} {k : String} {t : Tree} :
    (k, t) ∈ members given ↔ ∃ name g, (name, some g) ∈ given ∧ k = g.key name ∧ t = g.tree := by
  simp only [members, List.mem_flatMap, List.mem_map, Option.mem_toList, Prod.exists, Prod.mk.injEq]
  constructor
  · rintro ⟨name, g?, hmem, g, rfl, rfl, rfl⟩
    exact ⟨name, g, hmem, rfl, rfl⟩
  · rintro ⟨name, g, hmem, rfl, rfl⟩
    exact ⟨name, some g, hmem, g, rfl, rfl, rfl⟩

/-- Names that do not begin with a `#` and given as they are or as references keep apart. -/
theorem key_injective {g g' : Given} {name name' : String} (h : name.toList.head? ≠ some '#')
    (h' : name'.toList.head? ≠ some '#') (heq : g.key name = g'.key name') :
    name = name' ∧ g.isReference = g'.isReference := by
  unfold key at heq
  split_ifs at heq with hg hg' hg'
  · exact ⟨by simpa using heq, by rw [hg, hg']⟩
  · subst heq
    simp at h'
  · subst heq
    simp at h
  · exact ⟨heq, by simp [hg, hg']⟩

/-- If what is `given` has names of its own, so have the members. -/
theorem nodup_members {given : List (String × Option Given)} (hn : (given.map (·.1)).Nodup)
    (hplain : ∀ d ∈ given, d.1.toList.head? ≠ some '#') : ((members given).map (·.1)).Nodup := by
  rw [members, List.map_flatMap, List.nodup_flatMap]
  constructor
  · rintro ⟨name, g?⟩ -
    cases g? <;> simp
  · rw [List.Nodup, List.pairwise_map] at hn
    refine hn.imp_of_mem fun {d d'} hd hd' hne => ?_
    refine List.disjoint_left.2 fun {k} hk hk' => ?_
    simp only [List.map_map, List.mem_map, Function.comp_apply] at hk hk'
    obtain ⟨g, -, rfl⟩ := hk
    obtain ⟨g', -, heq⟩ := hk'
    exact hne (key_injective (hplain d hd) (hplain d' hd') heq.symm).1

/-- Given under names of their own, nothing is given both as it is and as a reference. -/
theorem key_ne_of_mem {given : List (String × Option Given)} (hn : (given.map (·.1)).Nodup)
    (hplain : ∀ d ∈ given, d.1.toList.head? ≠ some '#') {name name' : String} {g g' : Given}
    (h : (name, some g) ∈ given) (h' : (name', some g') ∈ given) : g'.key name' ≠ "#" ++ g.key name := by
  intro heq
  have hhash (s : String) : name' ≠ "#" ++ s := by
    rintro rfl
    exact hplain _ h' (by simp)
  by_cases hreference : g'.isReference
  · rw [key, if_pos hreference, String.append_right_inj] at heq
    by_cases hreference' : g.isReference
    · rw [key, if_pos hreference'] at heq
      exact hhash _ heq
    · rw [key, if_neg hreference'] at heq
      subst heq
      have hsame := List.inj_on_of_nodup_map hn h h' rfl
      obtain rfl := Option.some.inj (Prod.mk.inj hsame).2
      exact hreference' hreference
  · rw [key, if_neg hreference] at heq
    exact hhash _ heq

end Given

/-- What is written of `part` of a record is what is given for it by `d`, under a name. -/
def Gives (part : Except Problem (List (String × Tree))) (d : String × Option Given) : Prop :=
  Guards part (d.2.elim [] Given.ids) (d.2.toList.map fun g => (g.key d.1, g.tree))

namespace Form

variable [Writable α] (f : Form α)

/-- What is given by the value `a`. -/
def given (a : α) : Given := ⟨false, f.ids a, f.tree a⟩

theorem gives_member (name : String) (a : α) : Gives (member name a) (name, some (f.given a)) := by
  show Guards _ (f.ids a) [(name, f.tree a)]
  rw [← List.append_nil (f.ids a)]
  exact (f.guards a).bind (.ok _)

theorem gives_optionalMember (name : String) (o : Option α) :
    Gives (optionalMember name o) (name, o.map f.given) := by
  cases o with
  | none => exact .ok []
  | some a => exact f.gives_member name a

end Form

/-- A record is written with a member for each part that something is given for. -/
theorem guards_writeRecord {parts : Parts} {given : List (String × Option Given)}
    (h : List.Forall₂ Gives parts given) :
    Guards (writeRecord parts) (Given.idsOf given) (.object (Given.members given)) := by
  have hparts : Guards (parts.mapM id) (Given.idsOf given)
      (given.map fun d => d.2.toList.map fun g => (g.key d.1, g.tree)) := by
    induction h with
    | nil => exact .ok []
    | @cons part d parts given hpart _ ih =>
      rw [List.mapM_cons, ← List.append_nil (Given.idsOf (d :: given)), Given.idsOf, List.flatMap_cons,
        List.append_assoc]
      exact hpart.bind (ih.bind (.ok _))
  rw [← List.append_nil (Given.idsOf given)]
  exact hparts.bind (.ok _)

namespace Form

/-- A record is written with a member for each part that something is given for. -/
def record [Writable α] (given : α → List (String × Option Given))
    (h : ∀ a, ∃ parts, write a = writeRecord parts ∧ List.Forall₂ Gives parts (given a)) : Form α where
  ids a := Given.idsOf (given a)
  tree a := .object (Given.members (given a))
  guards a := by
    obtain ⟨parts, hwrite, hgives⟩ := h a
    rw [hwrite]
    exact guards_writeRecord hgives

/-- References have three members. -/
def resultReference : Form ResultReference :=
  record (fun r => [("resultOf", some (string.given r.resultOf)), ("name", some (string.given r.name)),
      ("path", some (string.given r.path))])
    fun _ => ⟨_, rfl, .cons (string.gives_member _ _) <| .cons (string.gives_member _ _) <|
      .cons (string.gives_member _ _) .nil⟩

/-- Comparators have a collation or none. -/
def comparator : Form Comparator :=
  record (fun c => [("property", some (string.given c.property)), ("isAscending", some (bool.given c.isAscending)),
      ("collation", c.collation.map string.given)])
    fun _ => ⟨_, rfl, .cons (string.gives_member _ _) <| .cons (bool.gives_member _ _) <|
      .cons (string.gives_optionalMember _ _) .nil⟩

section Arguments

variable [Writable α] (f : Form α)

/-- What is given by an `Argument`. -/
def argument : Argument α → Given
  | .value a => f.given a
  | .reference r => { resultReference.given r with isReference := true }

theorem gives_optionalArgument (name : String) (o : Option (Argument α)) :
    Gives (optionalArgument name o) (name, o.map f.argument) := by
  rcases o with _ | (a | r)
  · exact .ok []
  · exact f.gives_member name a
  · exact resultReference.gives_member ("#" ++ name) r

/-- A map of records to create or change is given unless it is empty. -/
theorem gives_mapMember {κ : Type} [TextKey κ] [WritableKey κ] (f : Form (SortedMap κ α)) (name : String)
    (m : SortedMap κ α) :
    Gives (SetRecords.mapMember name m) (name, if m.isEmpty then none else some (f.given m)) := by
  unfold SetRecords.mapMember
  split_ifs
  · exact .ok []
  · exact f.gives_member name m

end Arguments

end Form

/-! ### Filters -/

namespace Filter

variable {C : Type}

section Tree

variable (tree : C → Tree)

mutual

/-- What is written of a filter where `tree` tells what is written of its conditions. -/
def treeOf : Filter C → Tree
  | .node op fs => .object [("operator", .string op.name), ("conditions", .array (treesOf fs))]
  | .condition c => tree c
termination_by structural f => f

/-- What is written of each filter of a list. -/
def treesOf : List (Filter C) → List Tree
  | [] => []
  | f :: fs => treeOf f :: treesOf fs
termination_by structural fs => fs

end

end Tree

variable [Writable C] (form : Form C)

mutual

theorem guards_writeFilter : ∀ f : Filter C,
    Guards f.writeFilter (f.conditions.flatMap form.ids) (treeOf form.tree f)
  | .node op fs => by
    rw [writeFilter, conditions, treeOf, ← List.append_nil ((conditionsOf fs).flatMap form.ids)]
    exact (guards_writeFilters fs).bind (.ok _)
  | .condition c => by
    rw [writeFilter, conditions, treeOf, List.flatMap_singleton]
    exact form.guards c

theorem guards_writeFilters : ∀ fs : List (Filter C),
    Guards (writeFilters fs) ((conditionsOf fs).flatMap form.ids) (treesOf form.tree fs)
  | [] => .ok []
  | f :: fs => by
    rw [writeFilters, conditionsOf, treesOf, List.flatMap_append,
      ← List.append_nil ((conditionsOf fs).flatMap form.ids)]
    exact (guards_writeFilter f).bind ((guards_writeFilters fs).bind (.ok _))

end

end Filter

/-- Filters hold the identifiers that are in their `conditions`. -/
def Form.filter {C : Type} [Writable C] (form : Form C) : Form (Filter C) where
  ids f := f.conditions.flatMap form.ids
  tree := Filter.treeOf form.tree
  guards := Filter.guards_writeFilter form

end JmapClient
