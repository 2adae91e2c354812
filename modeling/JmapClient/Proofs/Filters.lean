import JmapClient.Filter
import JmapClient.Notes
import JmapClient.Proofs.Json.Faithful

/-!
# Filters that are read as they were written

Nothing in a document says whether it is a node or a condition. If conditions are written as objects without
an `operator` member and are read as they were written (`Filter.Discernible`), a written node is always read
as a node (`Filter.ofTree?_node`) and a written condition never (`Filter.ofTree?_leaf`). So a filter is read as
it was written (`Filter.read_written`). Types of records that are faithful are such conditions
(`Filter.Discernible.of_record`).
-/

namespace JmapClient

open Json

theorem Operator.ofName?_name (op : Operator) : Operator.ofName? op.name = some op := by
  cases op <;> decide

namespace Filter

variable {C : Type}

/-! ### What is written -/

section Write

variable [Writable C]

mutual

theorem exists_writeFilter_iff :
    ∀ f : Filter C, (∃ t, f.writeFilter = .ok t) ↔ ∀ c ∈ f.conditions, ∃ t, write c = .ok t
  | .node op fs => by
    rw [conditions, ← exists_writeFilters_iff fs, writeFilter]
    simp [bind_eq_ok_iff]
  | .condition c => by simp [conditions, writeFilter]

theorem exists_writeFilters_iff :
    ∀ fs : List (Filter C),
      (∃ ts, writeFilters fs = .ok ts) ↔ ∀ c ∈ conditionsOf fs, ∃ t, write c = .ok t
  | [] => by simp [conditionsOf, writeFilters]
  | f :: fs => by
    rw [conditionsOf, List.forall_mem_append, ← exists_writeFilter_iff f, ← exists_writeFilters_iff fs,
      writeFilters]
    simp [bind_eq_ok_iff]

end

/-- The value of a written node lists the children first. -/
theorem normalize_node (op : Operator) (ts : List Tree) :
    (Tree.object [("operator", .string op.name), ("conditions", .array ts)]).normalize =
      .object [("conditions", .array (Tree.normalizeAll ts)), ("operator", .string op.name)] := by
  have hafter : ¬ "operator" < "conditions" ∧ "conditions" < "operator" := by decide
  simp [Tree.normalize, Tree.normalizeMembers, sortEntries, insertEntry, TextKey.text, hafter]

end Write

/-! ### What is read -/

section Read

variable [Readable C]

theorem valuesOf_eq_nil {name : String} {ms : List (String × Tree)} (h : name ∉ ms.map (·.1)) :
    valuesOf name ms = [] := by
  unfold valuesOf
  rw [List.map_eq_nil_iff, List.filter_eq_nil_iff]
  intro m hm heq
  exact h (List.mem_map.2 ⟨m, hm, by simpa using heq⟩)

/-- A node is read as one (`ofTree?`), whatever could be made of it as a condition. -/
theorem ofTree?_node {op : Operator} {ts : List Tree} {fs : List (Filter C)} (h : ofTrees? ts = some fs) :
    ofTree? (.object [("conditions", .array ts), ("operator", .string op.name)]) = some (.node op fs) := by
  have hop : valuesOf "operator" [("conditions", .array ts), ("operator", .string op.name)] =
      [.string op.name] := by
    simp [valuesOf]
  have hchildren : childrenOf? (C := C) [("conditions", .array ts), ("operator", .string op.name)] =
      [some fs] := by
    simp [childrenOf?, h]
  rw [ofTree?, hop, hchildren]
  simp [operatorOf?, Operator.ofName?_name]

/-- An object without an `operator` is read as a condition only. -/
theorem ofTree?_leaf {ms : List (String × Tree)} (h : "operator" ∉ ms.map (·.1)) :
    ofTree? (C := C) (.object ms) = conditionOf? (.object ms) := by
  rw [ofTree?, valuesOf_eq_nil h]
  rfl

theorem read_of_tree? {d : Draft} {t : Tree} {f : Filter C} (hd : d.tree? = .ok t) (ht : ofTree? t = some f) :
    (read d : Except Problem (Filter C)) = .ok f := by
  refine bind_eq_ok_iff.2 ⟨t, ofFault_eq_ok_iff.2 hd, ?_⟩
  rw [ht]
  rfl

end Read

/-! ### Conditions that can be told from nodes -/

/-- Conditions can be told from nodes: they are written as objects without an `operator`, and read as they were written.
-/
structure Discernible (C : Type) [Readable C] [Writable C] : Prop where
  object : ∀ (c : C) t, write c = .ok t → ∃ ms, t = .object ms ∧ "operator" ∉ ms.map (·.1)
  read_ofTree : ∀ (c : C) t, write c = .ok t → (Value.ofTree t).read = .ok c

section Both

variable [Readable C] [Writable C]

theorem Discernible.ofTree?_condition (h : Discernible C) {c : C} {t : Tree} (ht : write c = .ok t) :
    ofTree? t.normalize = some (.condition c) := by
  obtain ⟨ms, rfl, hms⟩ := h.object c t ht
  have hsorted : "operator" ∉ (sortEntries (Tree.normalizeMembers ms)).map (·.1) := by
    intro hmem
    obtain ⟨m, hm, hname⟩ := List.mem_map.1 hmem
    have hm := mem_of_mem_sortEntries hm
    rw [normalizeMembers_eq_map] at hm
    obtain ⟨m', hm', rfl⟩ := List.mem_map.1 hm
    exact hms (List.mem_map.2 ⟨m', hm', hname⟩)
  have hread : read (Tree.object ms).normalize.draft = .ok c := h.read_ofTree c _ ht
  rw [Tree.normalize] at hread ⊢
  rw [ofTree?_leaf hsorted, conditionOf?, hread]

/-- Faithful records none of whose fields is called `operator` can be told from nodes. -/
theorem Discernible.of_record {ids : C → List Id} {r : Record C} {parts : C → Parts} {p : C → Prop}
    (h : Faithful C ids) (hwrite : ∀ c : C, write c = writeRecord (parts c))
    (hparts : ∀ c, Restores r (parts c) c (p c)) (hnames : "operator" ∉ r.names) : Discernible C where
  object c t ht := by
    simp only [hwrite, writeRecord, bind_eq_ok_iff, pure_eq_ok, Except.ok.injEq] at ht
    obtain ⟨mss, hmss, rfl⟩ := ht
    exact ⟨_, rfl, fun hmem => hnames (((hparts c).names_sublist mss hmss).subset hmem)⟩
  read_ofTree := h.read_ofTree

end Both

end Filter

namespace Notes.NoteFilter

theorem restores (f : NoteFilter) :
    Restores (NoteFilter.mk <$> Record.nullable "titleContains" <*> Record.nullable "inFolder" <*>
        Record.nullable "minSize")
      [optionalMember "titleContains" f.titleContains, optionalMember "inFolder" f.inFolder,
        optionalMember "minSize" f.minSize] f (∀ id ∈ f.inFolder.toList, id.Valid) := by
  have h := (((restores_nullable faithful_string neverNull_string "titleContains" f.titleContains).map
    NoteFilter.mk).seq (restores_nullable faithful_id neverNull_id "inFolder" f.inFolder)).seq
    (restores_nullable faithful_uint64 neverNull_uint64 "minSize" f.minSize)
  refine h.congr ?_
  cases f.titleContains <;> cases f.inFolder <;> cases f.minSize <;> simp

theorem faithful : Faithful NoteFilter fun f => f.inFolder.toList :=
  .of_record (fun _ => rfl) (fun _ => rfl) (by decide) restores

theorem discernible : Filter.Discernible NoteFilter :=
  .of_record faithful (fun _ => rfl) restores (by decide)

end Notes.NoteFilter

/-! ### Filters of such conditions -/

namespace Filter

section Both

variable {C : Type} [Readable C] [Writable C]

mutual

theorem ofTree?_normalize (h : Discernible C) :
    ∀ (f : Filter C) {t : Tree}, f.writeFilter = .ok t → ofTree? t.normalize = some f
  | .node op fs, t, ht => by
    rw [writeFilter] at ht
    obtain ⟨ts, hts, ht⟩ := bind_eq_ok_iff.1 ht
    obtain rfl := Except.ok.inj ht
    rw [normalize_node]
    exact ofTree?_node (ofTrees?_normalizeAll h fs hts)
  | .condition c, t, ht => by
    rw [writeFilter] at ht
    exact h.ofTree?_condition ht

theorem ofTrees?_normalizeAll (h : Discernible C) :
    ∀ (fs : List (Filter C)) {ts : List Tree}, writeFilters fs = .ok ts →
      ofTrees? (Tree.normalizeAll ts) = some fs
  | [], ts, hts => by
    obtain rfl := Except.ok.inj hts
    rfl
  | f :: fs, ts, hts => by
    rw [writeFilters] at hts
    obtain ⟨t, ht, hts⟩ := bind_eq_ok_iff.1 hts
    obtain ⟨us, hus, hts⟩ := bind_eq_ok_iff.1 hts
    obtain rfl := Except.ok.inj hts
    rw [Tree.normalizeAll, ofTrees?, ofTree?_normalize h f ht, ofTrees?_normalizeAll h fs hus]

end

/-- A filter of `Discernible` conditions is written if and only if each of its conditions is, and what is written is
read as the very filter. -/
theorem read_written (h : Discernible C) (f : Filter C) :
    ((∃ t, write f = .ok t) ↔ ∀ c ∈ f.conditions, ∃ t, write c = .ok t) ∧
      ∀ t, write f = .ok t → (Value.ofTree t).read = .ok f := by
  refine ⟨exists_writeFilter_iff f, fun t ht => ?_⟩
  exact read_of_tree? (Draft.tree?_draft t.normalize) (ofTree?_normalize h f ht)

end Both

open Notes in
/-- An empty node, a node within a node and a condition that asks for nothing. -/
theorem read_written_of_nested :
    let c₁ : NoteFilter := { titleContains := some "t", inFolder := some ⟨"F1"⟩, minSize := Option.none }
    let c₂ : NoteFilter := { titleContains := Option.none, inFolder := Option.none, minSize := Option.none }
    let f : Filter NoteFilter := .node .and [.node .not [], .node .or [.condition c₁, .condition c₂]]
    ∃ t, write f = .ok t ∧ (Value.ofTree t).read = .ok f := by
  intro c₁ c₂ f
  obtain ⟨hwritten, hread⟩ := read_written NoteFilter.discernible f
  have hids : ∀ c ∈ f.conditions, ∀ id ∈ c.inFolder.toList, id.fault? = Option.none := by decide
  have hf : ∀ c ∈ f.conditions, ∃ t, write c = .ok t := by
    intro c hc
    rw [NoteFilter.faithful.written_iff]
    exact fun id hid => Id.fault?_eq_none_iff.1 (hids c hc id hid)
  obtain ⟨t, ht⟩ := hwritten.2 hf
  exact ⟨t, ht, hread t ht⟩

end Filter

end JmapClient
