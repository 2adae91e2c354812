import JmapClient.Filter
import JmapClient.Notes
import Mathlib.Data.List.Basic

/-!
# Filters put together

A caller writes filters as expressions: conditions, nodes with any number of parts, and `&&&`, `|||` and
`~~~`. `join` changes the tree where its left operand is a node of its own operator, so an expression and the
filter that it builds (`Expression.filter`) need not have the same shape; they mean the same and have the
same conditions in the same order (`Expression.filter_exact`).

A chain `f₁ &&& ⋯ &&& fₙ` is one node with the parts `f₁, …, fₙ`. With other brackets it is not: of all the
ways to put brackets around operands (`Grouping`), one node is built by those alone in which nothing stands
in brackets on the right (`Grouping.filter_eq_node_iff`).
-/

namespace JmapClient

namespace Filter

variable {C : Type}

/-- The filter is a node of the operator `op`. -/
def IsNode (op : Operator) (f : Filter C) : Prop := ∃ fs, f = .node op fs

/-! ### What a node means -/

theorem allHold_iff (v : C → Bool) (fs : List (Filter C)) :
    allHold v fs = true ↔ ∀ f ∈ fs, f.holds v = true := by
  induction fs with
  | nil => simp [allHold]
  | cons f fs ih => rw [allHold, Bool.and_eq_true, ih, List.forall_mem_cons]

theorem someHolds_iff (v : C → Bool) (fs : List (Filter C)) :
    someHolds v fs = true ↔ ∃ f ∈ fs, f.holds v = true := by
  induction fs with
  | nil => simp [someHolds]
  | cons f fs ih => rw [someHolds, Bool.or_eq_true, ih, List.exists_mem_cons_iff]

theorem holds_all_iff (v : C → Bool) (fs : List (Filter C)) :
    (all fs).holds v = true ↔ ∀ f ∈ fs, f.holds v = true := by
  rw [all, holds, allHold_iff]

theorem holds_any_iff (v : C → Bool) (fs : List (Filter C)) :
    (any fs).holds v = true ↔ ∃ f ∈ fs, f.holds v = true := by
  rw [any, holds, someHolds_iff]

theorem holds_none_iff (v : C → Bool) (fs : List (Filter C)) :
    (none fs).holds v = true ↔ ∀ f ∈ fs, ¬ f.holds v = true := by
  rw [none, holds, Bool.not_eq_true', ← Bool.not_eq_true, someHolds_iff]
  simp only [not_exists, not_and]

theorem conditionsOf_eq_flatMap (fs : List (Filter C)) : conditionsOf fs = fs.flatMap conditions := by
  induction fs with
  | nil => rfl
  | cons f fs ih => rw [conditionsOf, ih, List.flatMap_cons]

/-! ### Joining two filters -/

theorem join_node (op : Operator) (fs : List (Filter C)) (g : Filter C) :
    join op (.node op fs) g = .node op (fs ++ [g]) := by
  rw [join, if_pos rfl]

theorem join_of_not_isNode {op : Operator} {f : Filter C} (h : ¬ f.IsNode op) (g : Filter C) :
    join op f g = .node op [f, g] := by
  cases f with
  | condition c => rfl
  | node o fs =>
    have hne : o ≠ op := fun heq => h ⟨fs, by rw [heq]⟩
    rw [join, if_neg hne]

/-- Whatever `f` is, two filters become a node of the operator `op` whose last part is `g`. -/
theorem join_cases (op : Operator) (f g : Filter C) :
    (∃ fs, f = .node op fs ∧ join op f g = .node op (fs ++ [g])) ∨
      (¬ f.IsNode op ∧ join op f g = .node op [f, g]) := by
  by_cases h : f.IsNode op
  · obtain ⟨fs, rfl⟩ := h
    exact Or.inl ⟨fs, rfl, join_node op fs g⟩
  · exact Or.inr ⟨h, join_of_not_isNode h g⟩

theorem holds_and_iff (v : C → Bool) (f g : Filter C) :
    (f &&& g).holds v = true ↔ f.holds v = true ∧ g.holds v = true := by
  change (join .and f g).holds v = true ↔ _
  rcases join_cases .and f g with ⟨fs, rfl, heq⟩ | ⟨-, heq⟩
  · rw [heq, ← all, ← all, holds_all_iff, holds_all_iff, List.forall_mem_append, List.forall_mem_singleton]
  · rw [heq, ← all, holds_all_iff]
    simp

theorem holds_or_iff (v : C → Bool) (f g : Filter C) :
    (f ||| g).holds v = true ↔ f.holds v = true ∨ g.holds v = true := by
  change (join .or f g).holds v = true ↔ _
  rcases join_cases .or f g with ⟨fs, rfl, heq⟩ | ⟨-, heq⟩
  · rw [heq, ← any, ← any, holds_any_iff, holds_any_iff]
    simp [or_and_right, exists_or]
  · rw [heq, ← any, holds_any_iff]
    simp

theorem conditions_join (op : Operator) (f g : Filter C) :
    (join op f g).conditions = f.conditions ++ g.conditions := by
  rcases join_cases op f g with ⟨fs, rfl, heq⟩ | ⟨-, heq⟩ <;>
    simp [heq, conditions, conditionsOf_eq_flatMap]

/-- A node takes in whatever `gs` are joined to it. -/
theorem foldl_join_node (op : Operator) (fs gs : List (Filter C)) :
    gs.foldl (join op) (.node op fs) = .node op (fs ++ gs) := by
  induction gs generalizing fs with
  | nil => rw [List.foldl_nil, List.append_nil]
  | cons g gs ih => rw [List.foldl_cons, join_node, ih, List.append_assoc, List.singleton_append]

theorem foldl_join_of_not_isNode {op : Operator} {f : Filter C} (h : ¬ f.IsNode op) (g : Filter C)
    (gs : List (Filter C)) : (g :: gs).foldl (join op) f = .node op (f :: g :: gs) := by
  rw [List.foldl_cons, join_of_not_isNode h, foldl_join_node]
  rfl

end Filter

/-! ### Expressions -/

/-- What a caller writes to build a filter. -/
inductive Expression (C : Type)
  | condition (c : C)
  | all (parts : List (Expression C))
  | any (parts : List (Expression C))
  | none (parts : List (Expression C))
  | both (a b : Expression C)
  | either (a b : Expression C)
  | negation (a : Expression C)

namespace Expression

variable {C : Type}

/-- Whether an expression is true where `v` tells which conditions are. -/
def Holds (v : C → Bool) : Expression C → Prop
  | .condition c => v c = true
  | .all parts => ∀ e, (_ : e ∈ parts) → e.Holds v
  | .any parts => ∃ e, ∃ _ : e ∈ parts, e.Holds v
  | .none parts => ∀ e, (_ : e ∈ parts) → ¬ e.Holds v
  | .both a b => a.Holds v ∧ b.Holds v
  | .either a b => a.Holds v ∨ b.Holds v
  | .negation a => ¬ a.Holds v

mutual

/-- The conditions that stand in an expression, from left to right. -/
def conditions : Expression C → List C
  | .condition c => [c]
  | .all parts => conditionsOf parts
  | .any parts => conditionsOf parts
  | .none parts => conditionsOf parts
  | .both a b => a.conditions ++ b.conditions
  | .either a b => a.conditions ++ b.conditions
  | .negation a => a.conditions
termination_by structural e => e

/-- The conditions that stand in a list of expressions, from left to right. -/
def conditionsOf : List (Expression C) → List C
  | [] => []
  | e :: es => e.conditions ++ conditionsOf es
termination_by structural es => es

end

mutual

/-- The filter that an expression builds. -/
def filter : Expression C → Filter C
  | .condition c => .condition c
  | .all parts => .all (filters parts)
  | .any parts => .any (filters parts)
  | .none parts => .none (filters parts)
  | .both a b => a.filter &&& b.filter
  | .either a b => a.filter ||| b.filter
  | .negation a => ~~~a.filter
termination_by structural e => e

/-- The filters that the expressions of a list build. -/
def filters : List (Expression C) → List (Filter C)
  | [] => []
  | e :: es => e.filter :: filters es
termination_by structural es => es

end

theorem filters_eq_map (es : List (Expression C)) : filters es = es.map filter := by
  induction es with
  | nil => rfl
  | cons e es ih => rw [filters, ih, List.map_cons]

theorem conditionsOf_eq_flatMap (es : List (Expression C)) : conditionsOf es = es.flatMap conditions := by
  induction es with
  | nil => rfl
  | cons e es ih => rw [conditionsOf, ih, List.flatMap_cons]

/-- A property of all expressions, shown for each kind from the parts. -/
theorem parts_induction {p : Expression C → Prop} (condition : ∀ c, p (.condition c))
    (all : ∀ parts, (∀ e ∈ parts, p e) → p (.all parts))
    (any : ∀ parts, (∀ e ∈ parts, p e) → p (.any parts))
    (none : ∀ parts, (∀ e ∈ parts, p e) → p (.none parts))
    (both : ∀ a b, p a → p b → p (.both a b)) (either : ∀ a b, p a → p b → p (.either a b))
    (negation : ∀ a, p a → p (.negation a)) (e : Expression C) : p e :=
  Expression.rec (motive_1 := p) (motive_2 := fun es => ∀ e ∈ es, p e) condition all any none both either
    negation (fun _ h => nomatch h) (fun _ _ he hes => List.forall_mem_cons.2 ⟨he, hes⟩) e

/-- The filter means what the expression means. -/
theorem holds_filter (v : C → Bool) (e : Expression C) : e.filter.holds v = true ↔ e.Holds v := by
  induction e using parts_induction with
  | condition c => rw [filter, Filter.holds, Holds]
  | all parts ih =>
    rw [filter, Filter.holds_all_iff, filters_eq_map, List.forall_mem_map, Holds]
    exact forall₂_congr ih
  | any parts ih =>
    rw [filter, Filter.holds_any_iff, filters_eq_map, Holds]
    simp only [List.mem_map, exists_exists_and_eq_and, exists_prop]
    exact exists_congr fun e => and_congr_right (ih e)
  | none parts ih =>
    rw [filter, Filter.holds_none_iff, filters_eq_map, List.forall_mem_map, Holds]
    exact forall₂_congr fun e he => not_congr (ih e he)
  | both a b iha ihb => rw [filter, Filter.holds_and_iff, iha, ihb, Holds]
  | either a b iha ihb => rw [filter, Filter.holds_or_iff, iha, ihb, Holds]
  | negation a ih =>
    rw [filter, Holds, ← ih]
    exact (Filter.holds_none_iff v [a.filter]).trans List.forall_mem_singleton

/-- No condition is lost, repeated or moved. -/
theorem conditions_filter (e : Expression C) : e.filter.conditions = e.conditions := by
  have hparts : ∀ parts : List (Expression C), (∀ e ∈ parts, e.filter.conditions = e.conditions) →
      Filter.conditionsOf (filters parts) = conditionsOf parts := by
    intro parts ih
    rw [filters_eq_map, Filter.conditionsOf_eq_flatMap, conditionsOf_eq_flatMap, List.flatMap_map]
    exact List.flatMap_congr ih
  induction e using parts_induction with
  | condition c => rw [filter, Filter.conditions, conditions]
  | all parts ih => rw [filter, Filter.all, Filter.conditions, conditions, hparts parts ih]
  | any parts ih => rw [filter, Filter.any, Filter.conditions, conditions, hparts parts ih]
  | none parts ih => rw [filter, Filter.none, Filter.conditions, conditions, hparts parts ih]
  | both a b iha ihb => rw [filter, conditions, ← iha, ← ihb, ← Filter.conditions_join .and]; rfl
  | either a b iha ihb => rw [filter, conditions, ← iha, ← ihb, ← Filter.conditions_join .or]; rfl
  | negation a ih =>
    rw [filter, conditions, ← ih]
    exact List.append_nil _

/-- A filter means what its expression means (`Holds`) and lists the same `conditions` in the same order. A chain of one
operator is one node, whose parts are the operands, if the first operand is none. -/
theorem filter_exact :
    (∀ (e : Expression C) (v : C → Bool), e.filter.holds v = true ↔ e.Holds v) ∧
      (∀ e : Expression C, e.filter.conditions = e.conditions) ∧
      ∀ (f g : Filter C) (fs : List (Filter C)),
        (¬ f.IsNode .and → (g :: fs).foldl (· &&& ·) f = Filter.all (f :: g :: fs)) ∧
          (¬ f.IsNode .or → (g :: fs).foldl (· ||| ·) f = Filter.any (f :: g :: fs)) := by
  refine ⟨fun e v => holds_filter v e, conditions_filter, fun f g fs => ⟨fun h => ?_, fun h => ?_⟩⟩
  · exact Filter.foldl_join_of_not_isNode h g fs
  · exact Filter.foldl_join_of_not_isNode h g fs

open Notes in
/-- An empty node takes in the right operand, a node of another operator does not, and a chain may begin with
such a node. -/
theorem filter_exact_of_nodes :
    let c₁ : NoteFilter := { titleContains := some "t", inFolder := Option.none, minSize := Option.none }
    let c₂ : NoteFilter := { titleContains := Option.none, inFolder := Option.none, minSize := some 1 }
    let e : Expression NoteFilter :=
      .negation (.both (.both (.all []) (.condition c₁)) (.either (.none []) (.condition c₂)))
    let f : Filter NoteFilter := Filter.any []
    (∀ v, e.filter.holds v = true ↔ e.Holds v) ∧ e.filter.conditions = [c₁, c₂] ∧ ¬ f.IsNode .and ∧
      f &&& .condition c₁ &&& .condition c₂ = Filter.all [f, .condition c₁, .condition c₂] := by
  intro c₁ c₂ e f
  obtain ⟨hmeaning, hconditions, hchain⟩ := filter_exact (C := NoteFilter)
  have hf : ¬ f.IsNode .and := by
    rintro ⟨fs, hfs⟩
    simp [f, Filter.any] at hfs
  exact ⟨hmeaning e, hconditions e, hf, (hchain f (.condition c₁) [.condition c₂]).1 hf⟩

end Expression

/-! ### Brackets -/

/-- A way to put brackets around operands. -/
inductive Grouping (α : Type)
  | single (a : α)
  | pair (left right : Grouping α)

namespace Grouping

section Operands

variable {α : Type}

/-- The operands, from left to right. -/
def operands : Grouping α → List α
  | .single a => [a]
  | .pair l r => l.operands ++ r.operands

/-- No brackets stand on the right of an operator. -/
def LeftNested : Grouping α → Prop
  | .single _ => True
  | .pair l r => l.LeftNested ∧ ∃ a, r = .single a

/-- What stands on the right of an operator outside of brackets there, behind the first operand. -/
def parts : Grouping α → List (Grouping α)
  | .single a => [.single a]
  | .pair l r => l.parts ++ [r]

theorem leftNested_iff (g : Grouping α) : g.LeftNested ↔ ∀ p ∈ g.parts, ∃ a, p = .single a := by
  induction g with
  | single a => simp [LeftNested, parts]
  | pair l r ihl _ => rw [LeftNested, parts, List.forall_mem_append, List.forall_mem_singleton, ihl]

/-- The `parts` have the operands in their order. -/
theorem flatMap_operands_parts (g : Grouping α) : g.parts.flatMap operands = g.operands := by
  induction g with
  | single a => rfl
  | pair l r ihl _ => rw [parts, List.flatMap_append, ihl, List.flatMap_singleton, operands]

end Operands

variable {C : Type} {op : Operator}

/-- The filter that the operator `op` builds of operands in brackets. -/
def filter (op : Operator) : Grouping (Filter C) → Filter C
  | .single f => f
  | .pair l r => Filter.join op (l.filter op) (r.filter op)

theorem filter_pair {l r : Grouping (Filter C)} (h : ∀ f ∈ (pair l r).operands, ¬ f.IsNode op) :
    (pair l r).filter op = .node op ((pair l r).parts.map (filter op)) := by
  induction l generalizing r with
  | single f =>
    have hf : ¬ f.IsNode op := h f (List.mem_append_left _ (List.mem_singleton_self f))
    exact Filter.join_of_not_isNode hf _
  | pair l' r' ih _ =>
    have hleft := ih (r := r') fun f hf => h f (List.mem_append_left _ hf)
    have hparts : (pair (pair l' r') r).parts = (pair l' r').parts ++ [r] := rfl
    rw [filter, hleft, Filter.join_node, hparts, List.map_append, List.map_singleton]

/-- Operands that are no nodes of the operator become one node, whose parts are what no brackets enclose. It has the
operands for its parts if and only if there are no brackets on the right (`LeftNested`). -/
theorem filter_eq_node_iff (op : Operator) (l r : Grouping (Filter C))
    (h : ∀ f ∈ (pair l r).operands, ¬ f.IsNode op) :
    (pair l r).filter op = .node op ((pair l r).parts.map (filter op)) ∧
      ((pair l r).filter op = .node op (pair l r).operands ↔ (pair l r).LeftNested) := by
  refine ⟨filter_pair h, ?_⟩
  rw [filter_pair h, Filter.node.injEq, eq_self_iff_true, true_and, leftNested_iff]
  constructor
  · intro heq p hp
    cases p with
    | single f => exact ⟨f, rfl⟩
    | pair l' r' =>
      -- A part in brackets is a node, and no operand is.
      have hpart : (pair l' r').filter op ∈ (pair l r).operands := heq ▸ List.mem_map_of_mem hp
      have hsub : ∀ f ∈ (pair l' r').operands, ¬ f.IsNode op := by
        intro f hf
        refine h f ?_
        rw [← flatMap_operands_parts]
        exact List.mem_flatMap.2 ⟨_, hp, hf⟩
      exact absurd ⟨_, filter_pair hsub⟩ (h _ hpart)
  · intro hsingle
    rw [← flatMap_operands_parts, List.map_eq_flatMap]
    refine List.flatMap_congr fun p hp => ?_
    obtain ⟨f, rfl⟩ := hsingle p hp
    rfl

section Titles

open Notes JmapClient.Filter

/-- The notes with `s` in their title. -/
def titled (s : String) : Filter NoteFilter :=
  .condition { titleContains := some s, inFolder := Option.none, minSize := Option.none }

theorem not_isNode_titled (op : Operator) (s : String) : ¬ (titled s).IsNode op := by
  rintro ⟨fs, hfs⟩
  cases hfs

/-- Four operands, once without brackets and once in two pairs. -/
theorem filter_eq_node_iff_of_four :
    let operands := [titled "a", titled "b", titled "c", titled "d"]
    let ab : Grouping (Filter NoteFilter) := .pair (.single (titled "a")) (.single (titled "b"))
    let cd : Grouping (Filter NoteFilter) := .pair (.single (titled "c")) (.single (titled "d"))
    let left : Grouping (Filter NoteFilter) := .pair (.pair ab (.single (titled "c"))) (.single (titled "d"))
    let pairs : Grouping (Filter NoteFilter) := .pair ab cd
    (∀ f ∈ operands, ¬ f.IsNode .or) ∧ left.filter .or = any operands ∧
      pairs.filter .or = any [titled "a", titled "b", any [titled "c", titled "d"]] ∧
      pairs.filter .or ≠ any operands := by
  intro operands ab cd left pairs
  have hnot : ∀ f ∈ operands, ¬ f.IsNode .or := by
    intro f hf
    simp only [operands, List.mem_cons, List.not_mem_nil, or_false] at hf
    rcases hf with rfl | rfl | rfl | rfl <;> exact not_isNode_titled _ _
  have hleft : left.LeftNested := ⟨⟨⟨trivial, _, rfl⟩, _, rfl⟩, _, rfl⟩
  have hpairs : ¬ pairs.LeftNested := by
    rintro ⟨-, f, hf⟩
    exact nomatch (hf : Grouping.pair _ _ = .single f)
  obtain ⟨-, hone⟩ := filter_eq_node_iff .or (.pair ab (.single (titled "c"))) (.single (titled "d")) hnot
  obtain ⟨hbuilt, htwo⟩ := filter_eq_node_iff .or ab cd hnot
  exact ⟨hnot, hone.2 hleft, hbuilt, fun heq => hpairs (htwo.1 heq)⟩

/-- Brackets on the right of `&&&` or `|||` leave a node of the operator within a node of it. -/
theorem nested_of_right :
    let a := titled "a"
    let b := titled "b"
    let c := titled "c"
    (∀ f ∈ [a, b, c], ∀ op, ¬ f.IsNode op) ∧
      a &&& b &&& c = all [a, b, c] ∧ a &&& (b &&& c) = all [a, all [b, c]] ∧
      a &&& (b &&& c) ≠ all [a, b, c] ∧
      a ||| b ||| c = any [a, b, c] ∧ a ||| (b ||| c) = any [a, any [b, c]] ∧
      a ||| (b ||| c) ≠ any [a, b, c] := by
  refine ⟨?_, rfl, rfl, fun h => ?_, rfl, rfl, fun h => ?_⟩
  · simp only [List.mem_cons, List.not_mem_nil, or_false]
    rintro f (rfl | rfl | rfl) op <;> exact not_isNode_titled _ _
  · cases h
  · cases h

end Titles

end Grouping

end JmapClient
