import JmapClient.Proofs.Filters

/-!
# Operators in documents

An object that has a member called `operator` ought to be an operator node. It is read as one if it has the form
of a node, which names one known operator and lists conditions all of which can be read (`IsNodeDocument`). Any
other is taken for a condition, and since a condition passes over members that are none of its fields, the
operator is lost: for conditions all of whose fields may be left out, this happens whenever the fields that are
there can be read (`Filter.operator_kept_iff`). So the operators that a document names and those of the filter
that is read from it form the same tree (`Outline`) only where no operator is lost on the way (`Kept`).
-/

namespace JmapClient

open Json Json.Record

/-! ### Records whose fields may all be left out -/

namespace Json.Record

variable {α β : Type}

/-- Every field may be left out: `r` is read if each field that is there can be read, and it depends on its fields
alone. -/
structure Optional (r : Record α) : Prop where
  exists_iff : ∀ view, (∃ a, r.ofMembers view = .ok a) ↔
    ∀ f ∈ r.fields, ∀ d, view f.1 = some d → f.2 d = .ok ()
  congr : ∀ view view', (∀ name ∈ r.names, view' name = view name) → r.ofMembers view' = r.ofMembers view

theorem Optional.lawful {r : Record α} (h : r.Optional) : r.Lawful :=
  fun view a ha => (h.exists_iff view).1 ⟨a, ha⟩

theorem Optional.map {r : Record α} (h : r.Optional) (f : α → β) : (f <$> r).Optional where
  exists_iff view := by
    refine Iff.trans ?_ (h.exists_iff view)
    simp only [ofMembers_map_eq_ok_iff]
    constructor
    · rintro ⟨_, a, ha, -⟩
      exact ⟨a, ha⟩
    · rintro ⟨a, ha⟩
      exact ⟨_, a, ha, rfl⟩
  congr view view' hview := congrArg (f <$> ·) (h.congr view view' hview)

theorem Optional.seq {r : Record (α → β)} {s : Record α} (hr : r.Optional) (hs : s.Optional) :
    (r <*> s).Optional where
  exists_iff view := by
    have hfields : (r <*> s).fields = r.fields ++ s.fields := rfl
    rw [hfields, List.forall_mem_append, ← hr.exists_iff, ← hs.exists_iff]
    simp only [ofMembers_seq_eq_ok_iff]
    constructor
    · rintro ⟨_, f, a, hf, ha, -⟩
      exact ⟨⟨f, hf⟩, a, ha⟩
    · rintro ⟨⟨f, hf⟩, a, ha⟩
      exact ⟨_, f, a, hf, ha, rfl⟩
  congr view view' hview := by
    rw [names_seq, List.forall_mem_append] at hview
    have hseq (v : String → Option Draft) : (r <*> s).ofMembers v =
        r.ofMembers v >>= fun f => s.ofMembers v >>= fun a => pure (f a) := rfl
    rw [hseq, hseq, hr.congr view view' hview.1, hs.congr view view' hview.2]

theorem optional_field [Readable α] {name : String} {absence : Absence α} {a₀ : α}
    (h : absence.fromMembers = .ok a₀) : (field name absence).Optional where
  exists_iff view := by
    have hfields : (field name absence).fields =
        [(name, fun d => (valueOf (α := α) (.field name) d).map fun _ => ())] := rfl
    simp only [hfields, List.forall_mem_singleton, ofMembers_field_eq_ok_iff, h, map_eq_ok_iff,
      valueOf_eq_ok_iff, and_true]
    cases hview : view name with
    | none => simp
    | some d => simp
  congr view view' hview := by
    have hname : view' name = view name := hview name (List.mem_singleton_self name)
    unfold field
    simp only [hname]

theorem optional_nullable [Readable α] (name : String) :
    (nullable name : Record (Option α)).Optional := optional_field rfl

/-- No field is given twice, and each that is given can be read. -/
def Fits (r : Record α) (ms : List (String × Tree)) : Prop :=
  (given r.names ms).Nodup ∧ ∀ m ∈ ms, ∀ f ∈ r.fields, f.1 = m.1 → f.2 m.2.draft = .ok ()

theorem mem_of_lookup_eq_some {ms : List (String × Tree)} {k : String} {t : Tree}
    (h : ms.lookup k = some t) : (k, t) ∈ ms := by
  obtain ⟨l₁, l₂, rfl, -⟩ := List.lookup_eq_some_iff.1 h
  simp

theorem Optional.exists_read_object_iff {r : Record α} (h : r.Optional) {what : String}
    {ms : List (String × Tree)} : (∃ a, r.read what (Tree.object ms).draft = .ok a) ↔ r.Fits ms := by
  simp only [h.lawful.read_object_draft_eq_ok_iff, exists_and_left, h.exists_iff, Fits]
  refine and_congr_right fun hn => ⟨fun htest m hm f hf hname => ?_, fun htest f hf d hd => ?_⟩
  · have hlookup : ms.lookup f.1 = some m.2 :=
      lookup_eq_some_of_nodup hn (List.mem_map_of_mem hf) (hname ▸ hm)
    exact htest f hf m.2.draft (by rw [view, hlookup, Option.map_some])
  · obtain ⟨t, ht, rfl⟩ := Option.map_eq_some_iff.1 hd
    exact htest (f.1, t) (mem_of_lookup_eq_some ht) f hf rfl

/-- The members that have another name than `name`. -/
def without (name : String) (ms : List (String × Tree)) : List (String × Tree) :=
  ms.filter fun m => m.1 ≠ name

theorem view_without {name k : String} (hk : k ≠ name) (ms : List (String × Tree)) :
    view (without name ms) k = view ms k := by
  have hlookup : (without name ms).lookup k = ms.lookup k := by
    induction ms with
    | nil => rfl
    | cons m ms ih =>
      obtain ⟨k', t⟩ := m
      by_cases hk' : k' = name
      · have hcons : without name ((k', t) :: ms) = without name ms := by simp [without, hk']
        rw [hcons, ih, List.lookup_cons, beq_eq_false_iff_ne.2 (hk' ▸ hk)]
      · have hcons : without name ((k', t) :: ms) = (k', t) :: without name ms := by simp [without, hk']
        rw [hcons, List.lookup_cons, List.lookup_cons, ih]
  rw [view, view, hlookup]

/-- A member that is no field makes no difference. -/
theorem Optional.read_object_without {r : Record α} (h : r.Optional) {what name : String}
    (hname : name ∉ r.names) {ms : List (String × Tree)} {a : α} :
    r.read what (Tree.object (without name ms)).draft = .ok a ↔ r.read what (Tree.object ms).draft = .ok a := by
  have hgiven : given r.names (without name ms) = given r.names ms := by
    rw [given, without, given, List.filter_map, List.filter_map, List.filter_filter]
    congr 1
    refine List.filter_congr fun m _ => ?_
    have hne : m.1 ∈ r.names → m.1 ≠ name := fun hm heq => hname (heq ▸ hm)
    simpa using hne
  have hview : r.ofMembers (view (without name ms)) = r.ofMembers (view ms) :=
    h.congr _ _ fun k hk => view_without (ne_of_mem_of_not_mem hk hname) ms
  rw [h.lawful.read_object_draft_eq_ok_iff, h.lawful.read_object_draft_eq_ok_iff, hgiven, hview]

end Json.Record

namespace Filter

variable {C : Type}

/-! ### What an object is read as -/

section Read

variable [Readable C]

theorem read_draft_eq_ok_iff {t : Tree} {f : Filter C} :
    (read t.draft : Except Problem (Filter C)) = .ok f ↔ ofTree? t = some f := by
  change (ofFault t.draft.tree? >>= _) = _ ↔ _
  rw [Draft.tree?_draft, ofFault, ok_bind]
  cases ofTree? (C := C) t <;> simp [pure_eq_ok]

theorem conditionOf?_eq_some_iff {t : Tree} {f : Filter C} :
    conditionOf? t = some f ↔ ∃ c, read t.draft = .ok c ∧ f = .condition c := by
  unfold conditionOf?
  cases (read t.draft : Except Problem C) <;> simp [eq_comm]

theorem ofTrees?_eq_mapM (ts : List Tree) : ofTrees? (C := C) ts = ts.mapM ofTree? := by
  induction ts with
  | nil => rfl
  | cons t ts ih =>
    rw [ofTrees?, List.mapM_cons, ih]
    cases ofTree? (C := C) t with
    | none => rfl
    | some f => cases ts.mapM (ofTree? (C := C)) <;> rfl

theorem ofTrees?_eq_some_iff {ts : List Tree} {fs : List (Filter C)} :
    ofTrees? ts = some fs ↔ List.Forall₂ (fun t f => ofTree? t = some f) ts fs := by
  rw [ofTrees?_eq_mapM, mapM_eq_some_iff]

theorem exists_ofTrees?_iff {ts : List Tree} :
    (∃ fs : List (Filter C), ofTrees? ts = some fs) ↔ ∀ t ∈ ts, ∃ f : Filter C, ofTree? t = some f := by
  rw [← Option.ne_none_iff_exists', ofTrees?_eq_mapM, Ne, mapM_eq_none_iff]
  simp only [not_exists, not_and, ← Ne.eq_def, Option.ne_none_iff_exists']

/-- The filters in a value, if it is an array of them. -/
def listed? : Tree → Option (List (Filter C))
  | .array ts => ofTrees? ts
  | _ => .none

theorem valuesOf_cons (name : String) (m : String × Tree) (ms : List (String × Tree)) :
    valuesOf name (m :: ms) = if m.1 = name then m.2 :: valuesOf name ms else valuesOf name ms := by
  by_cases h : m.1 = name <;> simp [valuesOf, h]

theorem childrenOf?_eq_map (ms : List (String × Tree)) :
    childrenOf? (C := C) ms = (valuesOf "conditions" ms).map listed? := by
  induction ms with
  | nil => rfl
  | cons m ms ih =>
    obtain ⟨name, t⟩ := m
    rw [valuesOf_cons]
    by_cases hname : name = "conditions"
    · rw [if_pos hname, List.map_cons, ← ih]
      cases t <;> simp [childrenOf?, hname, listed?]
    · rw [if_neg hname, ← ih]
      cases t <;> simp [childrenOf?, hname]

end Read

/-- The object has the form of a node: it names one operator, `op`, and has one list of conditions. -/
structure NodeForm (ms : List (String × Tree)) (op : Operator) (ts : List Tree) : Prop where
  operator : ∃ o, valuesOf "operator" ms = [o] ∧ operatorOf? o = some op
  conditions : valuesOf "conditions" ms = [.array ts]

theorem NodeForm.eq {ms : List (String × Tree)} {op op' : Operator} {ts ts' : List Tree}
    (h : NodeForm ms op ts) (h' : NodeForm ms op' ts') : op = op' ∧ ts = ts' := by
  obtain ⟨o, ho, hop⟩ := h.operator
  obtain ⟨o', ho', hop'⟩ := h'.operator
  obtain rfl := List.singleton_inj.1 (ho.symm.trans ho')
  have harray := List.singleton_inj.1 (h.conditions.symm.trans h'.conditions)
  exact ⟨Option.some.inj (hop.symm.trans hop'), Tree.array.inj harray⟩

theorem NodeForm.operator_mem {ms : List (String × Tree)} {op : Operator} {ts : List Tree}
    (h : NodeForm ms op ts) : "operator" ∈ ms.map (·.1) := by
  obtain ⟨o, ho, -⟩ := h.operator
  by_contra hmem
  rw [valuesOf_eq_nil hmem] at ho
  cases ho

variable [Readable C]

variable (C) in
/-- The object can be read as a node: it has the form of one (`NodeForm`), and all of its conditions can be read. -/
def IsNodeDocument (ms : List (String × Tree)) : Prop :=
  ∃ op ts, NodeForm ms op ts ∧ ∀ t ∈ ts, ∃ f : Filter C, read t.draft = .ok f

/-- The node that the object of `ms` holds. -/
def nodeOf? (ms : List (String × Tree)) : Option (Filter C) :=
  match valuesOf "operator" ms, childrenOf? ms with
  | [o], [some fs] => (operatorOf? o).map fun op => .node op fs
  | _, _ => .none

theorem ofTree?_object (ms : List (String × Tree)) :
    ofTree? (C := C) (.object ms) = (nodeOf? ms <|> conditionOf? (.object ms)) := by
  rw [ofTree?]
  rfl

theorem nodeOf?_eq_some_iff {ms : List (String × Tree)} {f : Filter C} :
    nodeOf? ms = some f ↔ ∃ op ts fs, NodeForm ms op ts ∧ ofTrees? ts = some fs ∧ f = .node op fs := by
  unfold nodeOf?
  rw [childrenOf?_eq_map]
  constructor
  · intro h
    split at h
    · rename_i o fs ho hfs
      obtain ⟨op, hop, rfl⟩ := Option.map_eq_some_iff.1 h
      obtain ⟨t, ht, hlisted⟩ := List.map_eq_singleton_iff.1 hfs
      cases t with
      | array ts => exact ⟨op, ts, fs, ⟨⟨o, ho, hop⟩, ht⟩, hlisted, rfl⟩
      | _ => cases hlisted
    · cases h
  · rintro ⟨op, ts, fs, ⟨⟨o, ho, hop⟩, hts⟩, hfs, rfl⟩
    simp [ho, hts, listed?, hfs, hop]

theorem nodeOf?_eq_none_iff {ms : List (String × Tree)} :
    nodeOf? (C := C) ms = .none ↔ ¬ IsNodeDocument C ms := by
  simp only [Option.eq_none_iff_forall_ne_some, ne_eq, nodeOf?_eq_some_iff, IsNodeDocument,
    read_draft_eq_ok_iff, ← exists_ofTrees?_iff]
  constructor
  · rintro h ⟨op, ts, hform, fs, hfs⟩
    exact h _ ⟨op, ts, fs, hform, hfs, rfl⟩
  · rintro h f ⟨op, ts, fs, hform, hfs, -⟩
    exact h ⟨op, ts, hform, fs, hfs⟩

/-- An object is read as a node if it can be (`nodeOf?`), and as a condition only if not. -/
theorem ofTree?_object_eq_some_iff {ms : List (String × Tree)} {f : Filter C} :
    ofTree? (.object ms) = some f ↔
      (∃ op ts fs, NodeForm ms op ts ∧ ofTrees? ts = some fs ∧ f = .node op fs) ∨
        (¬ IsNodeDocument C ms ∧ conditionOf? (.object ms) = some f) := by
  rw [ofTree?_object, ← nodeOf?_eq_some_iff, ← nodeOf?_eq_none_iff]
  cases nodeOf? (C := C) ms <;> simp

/-! ### Objects that lose their operator -/

theorem exists_read_node_iff {ms : List (String × Tree)} :
    (∃ op fs, read (Tree.object ms).draft = .ok (Filter.node (C := C) op fs)) ↔ IsNodeDocument C ms := by
  simp only [read_draft_eq_ok_iff, ofTree?_object_eq_some_iff, conditionOf?_eq_some_iff, IsNodeDocument,
    ← exists_ofTrees?_iff, reduceCtorEq, and_false, exists_false, or_false, Filter.node.injEq]
  constructor
  · rintro ⟨op, fs, _, ts, _, hform, hfs, rfl, rfl⟩
    exact ⟨op, ts, hform, fs, hfs⟩
  · rintro ⟨op, ts, hform, fs, hfs⟩
    exact ⟨op, fs, op, ts, fs, hform, hfs, rfl, rfl⟩

theorem read_condition_iff {ms : List (String × Tree)} {c : C} :
    read (Tree.object ms).draft = .ok (Filter.condition c) ↔
      ¬ IsNodeDocument C ms ∧ read (Tree.object ms).draft = .ok c := by
  simp only [read_draft_eq_ok_iff, ofTree?_object_eq_some_iff, conditionOf?_eq_some_iff, reduceCtorEq,
    and_false, exists_false, false_or, Filter.condition.injEq, exists_eq_right']

/-- For conditions whose fields may all be left out, an object that is no node is read as a condition
whenever its fields fit, and as if it named no operator. -/
theorem exists_read_condition_iff {name : String} {r : Record C} (hread : ∀ d : Draft, read d = r.read name d)
    (h : r.Optional) {ms : List (String × Tree)} :
    (∃ c : C, read (Tree.object ms).draft = .ok (Filter.condition c)) ↔ ¬ IsNodeDocument C ms ∧ r.Fits ms := by
  simp only [read_condition_iff, exists_and_left, hread, h.exists_read_object_iff]

theorem not_isNodeDocument_without (ms : List (String × Tree)) :
    ¬ IsNodeDocument C (without "operator" ms) := by
  rintro ⟨op, ts, hform, -⟩
  obtain ⟨m, hm, hname⟩ := List.mem_map.1 hform.operator_mem
  exact (of_decide_eq_true (List.mem_filter.1 hm).2) hname

end Filter

/-! ### The tree of operators -/

/-- Where operators stand in a tree, and which. -/
inductive Outline
  | leaf
  | node (operator : Option Operator) (parts : List Outline)

namespace Outline

open JmapClient.Filter

variable {C : Type}

mutual

/-- The operator nodes of a filter. -/
def ofFilter : Filter C → Outline
  | .node op fs => .node (some op) (ofFilters fs)
  | .condition _ => .leaf
termination_by structural f => f

/-- The operator nodes of each filter of a list. -/
def ofFilters : List (Filter C) → List Outline
  | [] => []
  | f :: fs => ofFilter f :: ofFilters fs
termination_by structural fs => fs

end

/-- The operator that an object names, if it names one. -/
def namedOperator? (ms : List (String × Tree)) : Option Operator :=
  match valuesOf "operator" ms with
  | [o] => operatorOf? o
  | _ => .none

mutual

/-- The objects with a member `operator`, each with those in its lists of conditions. -/
def ofTree : Tree → Outline
  | .object ms => if "operator" ∈ ms.map (·.1) then .node (namedOperator? ms) (ofMembers ms) else .leaf
  | .null => .leaf
  | .bool _ => .leaf
  | .number _ => .leaf
  | .string _ => .leaf
  | .array _ => .leaf
termination_by structural t => t

/-- The objects with an operator in each document of a list. -/
def ofTrees : List Tree → List Outline
  | [] => []
  | t :: ts => ofTree t :: ofTrees ts
termination_by structural ts => ts

/-- The objects with an operator in the lists of conditions among the members. -/
def ofMembers : List (String × Tree) → List Outline
  | [] => []
  | (name, .array ts) :: ms => if name = "conditions" then ofTrees ts ++ ofMembers ms else ofMembers ms
  | _ :: ms => ofMembers ms
termination_by structural ms => ms

end

/-- The outlines of the documents in an array. -/
def ofItems : Tree → List Outline
  | .array ts => ofTrees ts
  | _ => []

theorem ofMembers_eq_flatMap (ms : List (String × Tree)) :
    ofMembers ms = (valuesOf "conditions" ms).flatMap ofItems := by
  induction ms with
  | nil => rfl
  | cons m ms ih =>
    obtain ⟨name, t⟩ := m
    rw [valuesOf_cons]
    by_cases hname : name = "conditions"
    · rw [if_pos hname, List.flatMap_cons, ← ih]
      cases t <;> simp [ofMembers, hname, ofItems]
    · rw [if_neg hname, ← ih]
      cases t <;> simp [ofMembers, hname]

theorem ofTree_of_nodeForm {ms : List (String × Tree)} {op : Operator} {ts : List Tree}
    (h : NodeForm ms op ts) : ofTree (.object ms) = .node (some op) (ofTrees ts) := by
  obtain ⟨o, ho, hop⟩ := h.operator
  have hnamed : namedOperator? ms = some op := by
    simp only [namedOperator?, ho, hop]
  rw [ofTree, if_pos h.operator_mem, hnamed, ofMembers_eq_flatMap, h.conditions, List.flatMap_singleton, ofItems]

end Outline

namespace Filter

open Outline

variable {C : Type}

/-- `t` is an object that names an operator. -/
def NamesOperator (t : Tree) : Prop := ∃ ms, t = .object ms ∧ "operator" ∈ ms.map (·.1)

theorem ofTree_eq_leaf_iff {t : Tree} : Outline.ofTree t = .leaf ↔ ¬ NamesOperator t := by
  cases t with
  | object ms =>
    have hnames : NamesOperator (.object ms) ↔ "operator" ∈ ms.map (·.1) :=
      ⟨fun ⟨_, heq, hop⟩ => Tree.object.inj heq ▸ hop, fun hop => ⟨ms, rfl, hop⟩⟩
    rw [hnames, Outline.ofTree]
    split <;> simp_all
  | _ => simp [Outline.ofTree, NamesOperator]

variable [Readable C]

variable (C) in
/-- No operator is lost or made up where the document is read: each object that names an operator is a node of
documents that are read so, and nothing else is read as a node. -/
inductive Kept : Tree → Prop
  | node {ms : List (String × Tree)} {op : Operator} {ts : List Tree} (form : NodeForm ms op ts)
    (parts : ∀ t ∈ ts, Kept t) : Kept (.object ms)
  | condition {t : Tree} {c : C} (name : ¬ NamesOperator t)
    (condition : read t.draft = .ok (Filter.condition c)) : Kept t

theorem Kept.exists_read {t : Tree} (h : Kept C t) :
    ∃ f : Filter C, ofTree? t = some f ∧ ofFilter f = Outline.ofTree t := by
  induction h with
  | @node ms op ts form parts ih =>
    have hlists : ∀ us : List Tree,
        (∀ t ∈ us, ∃ f : Filter C, ofTree? t = some f ∧ ofFilter f = Outline.ofTree t) →
          ∃ fs : List (Filter C), ofTrees? us = some fs ∧ ofFilters fs = ofTrees us := by
      intro us hus
      induction us with
      | nil => exact ⟨[], rfl, rfl⟩
      | cons u us ihus =>
        rw [List.forall_mem_cons] at hus
        obtain ⟨⟨f, hf, houtline⟩, hus⟩ := hus
        obtain ⟨fs, hfs, houtlines⟩ := ihus hus
        refine ⟨f :: fs, ?_, ?_⟩
        · rw [ofTrees?, hf, hfs]
        · rw [ofFilters, ofTrees, houtline, houtlines]
    obtain ⟨fs, hfs, houtlines⟩ := hlists ts ih
    refine ⟨.node op fs, ofTree?_object_eq_some_iff.2 (Or.inl ⟨op, ts, fs, form, hfs, rfl⟩), ?_⟩
    rw [ofFilter, houtlines, ofTree_of_nodeForm form]
  | @condition t c name condition =>
    exact ⟨.condition c, read_draft_eq_ok_iff.1 condition, by rw [ofFilter, ofTree_eq_leaf_iff.2 name]⟩

mutual

theorem kept_of_outline_eq : ∀ (f : Filter C) {t : Tree}, ofTree? t = some f →
    ofFilter f = Outline.ofTree t → Kept C t
  | .condition c, t, hf, heq => by
    rw [ofFilter, eq_comm, ofTree_eq_leaf_iff] at heq
    exact .condition heq (read_draft_eq_ok_iff.2 hf)
  | .node op fs, t, hf, heq => by
    have hname : NamesOperator t := by
      by_contra hname
      rw [ofFilter, ofTree_eq_leaf_iff.2 hname] at heq
      cases heq
    obtain ⟨ms, rfl, -⟩ := hname
    rcases ofTree?_object_eq_some_iff.1 hf with ⟨op', ts, fs', hform, hfs, heqf⟩ | ⟨-, hcondition⟩
    · obtain ⟨rfl, rfl⟩ := Filter.node.inj heqf
      rw [ofFilter, ofTree_of_nodeForm hform] at heq
      exact .node hform (kept_of_outlines_eq fs hfs (Outline.node.inj heq).2)
    · obtain ⟨c, -, hc⟩ := conditionOf?_eq_some_iff.1 hcondition
      cases hc

theorem kept_of_outlines_eq : ∀ (fs : List (Filter C)) {ts : List Tree}, ofTrees? ts = some fs →
    ofFilters fs = ofTrees ts → ∀ t ∈ ts, Kept C t
  | [], ts, hfs, _ => by
    obtain rfl := List.forall₂_nil_right_iff.1 (ofTrees?_eq_some_iff.1 hfs)
    simp
  | f :: fs, ts, hfs, heq => by
    obtain ⟨t, ts, hf, htail, rfl⟩ := List.forall₂_cons_right_iff.1 (ofTrees?_eq_some_iff.1 hfs)
    rw [ofFilters, ofTrees] at heq
    obtain ⟨heqt, heqts⟩ := List.cons.inj heq
    rw [List.forall_mem_cons]
    exact ⟨kept_of_outline_eq f hf heqt, kept_of_outlines_eq fs (ofTrees?_eq_some_iff.2 htail) heqts⟩

end

/-- An object is read as a node if and only if it is a node document (`IsNodeDocument`), and else as a condition that
its `operator` does not matter for; so operators stay only where they are `Kept`. -/
theorem operator_kept_iff {name : String} {r : Record C} (hread : ∀ d : Draft, read d = r.read name d)
    (h : r.Optional) (hname : "operator" ∉ r.names) :
    (∀ ms : List (String × Tree),
      ((∃ op fs, read (Tree.object ms).draft = .ok (Filter.node (C := C) op fs)) ↔ IsNodeDocument C ms) ∧
        ((∃ c : C, read (Tree.object ms).draft = .ok (Filter.condition c)) ↔
          ¬ IsNodeDocument C ms ∧ r.Fits ms) ∧
        ∀ c : C, read (Tree.object ms).draft = .ok (Filter.condition c) →
          read (Tree.object (without "operator" ms)).draft = .ok (Filter.condition c)) ∧
      ∀ (t : Tree) (f : Filter C), read t.draft = .ok f →
        (Outline.ofFilter f = Outline.ofTree t ↔ Kept C t) := by
  refine ⟨fun ms => ⟨exists_read_node_iff, exists_read_condition_iff hread h, fun c hc => ?_⟩,
    fun t f hf => ⟨fun heq => kept_of_outline_eq f (read_draft_eq_ok_iff.1 hf) heq, fun hkept => ?_⟩⟩
  · obtain ⟨-, hc⟩ := read_condition_iff.1 hc
    rw [hread, ← h.read_object_without hname, ← hread] at hc
    exact read_condition_iff.2 ⟨not_isNodeDocument_without ms, hc⟩
  · obtain ⟨f', hf', heq⟩ := hkept.exists_read
    obtain rfl := Option.some.inj (hf'.symm.trans (read_draft_eq_ok_iff.1 hf))
    exact heq

open Notes

theorem optional_noteFilter : (NoteFilter.mk <$> nullable "titleContains" <*> nullable "inFolder" <*>
    nullable "minSize" : Record NoteFilter).Optional :=
  (((optional_nullable "titleContains").map NoteFilter.mk).seq (optional_nullable "inFolder")).seq
    (optional_nullable "minSize")

/-- The condition that asks for nothing. -/
def anyNote : NoteFilter := { titleContains := Option.none, inFolder := Option.none, minSize := Option.none }

/-- An object within `NOT` that names an operator in small letters. -/
theorem operator_kept_iff_of_nested :
    let ms : List (String × Tree) := [("operator", .string "and"), ("conditions", .array [])]
    let t : Tree := .object [("operator", .string "NOT"), ("conditions", .array [.object ms])]
    let f : Filter NoteFilter := .node .not [.condition anyNote]
    ¬ IsNodeDocument NoteFilter ms ∧
      read (Tree.object (without "operator" ms)).draft = .ok (Filter.condition anyNote) ∧
      read t.draft = .ok f ∧ Outline.ofFilter f ≠ Outline.ofTree t ∧ ¬ Kept NoteFilter t := by
  intro ms t f
  obtain ⟨hobjects, houtlines⟩ :=
    operator_kept_iff (fun d => (rfl : _ = Record.read "NoteFilter" _ d)) optional_noteFilter (by decide)
  obtain ⟨-, hcondition, hwithout⟩ := hobjects ms
  have hms : read (Tree.object ms).draft = .ok (Filter.condition anyNote) := by rfl
  have ht : read t.draft = .ok f := by rfl
  have hne : Outline.ofFilter f ≠ Outline.ofTree t := by
    intro heq
    cases heq
  exact ⟨(hcondition.1 ⟨_, hms⟩).1, hwithout _ hms, ht, hne, fun hkept => hne ((houtlines t f ht).2 hkept)⟩

/-- An object that names an operator which is not known asks for nothing. -/
theorem operator_lost :
    let t : Tree := .object [("operator", .string "XOR"),
      ("conditions", .array [.object [("inFolder", .string "F1")]])]
    NamesOperator t ∧ read t.draft = .ok (Filter.condition anyNote) ∧
      Outline.ofFilter (Filter.condition anyNote) ≠ Outline.ofTree t := by
  intro t
  refine ⟨⟨_, rfl, by decide⟩, rfl, fun heq => ?_⟩
  cases heq

end Filter

end JmapClient
