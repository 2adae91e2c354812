import JmapClient.Json.Record

/-!
# Filters

A `Filter C` is a tree of `AND`, `OR` and `NOT` nodes over conditions of type `C`. `f &&& g`, `f ||| g`
and `~~~f` put filters together; a node of the same operator on the left takes a further child instead of
becoming one. `Filter.holds` says what a filter means and `Filter.conditions` lists its conditions.

A document is read as an operator node if it has that form and else as a condition (`Filter.ofTree?`).
-/

namespace JmapClient

open Json

/-- How the children of a node are combined. -/
inductive Operator
  | and
  | or
  /-- None of the children holds. -/
  | not
deriving DecidableEq, Repr

/-- The name of an operator in JSON. -/
def Operator.name : Operator → String
  | .and => "AND"
  | .or => "OR"
  | .not => "NOT"

/-- The operator with the name `name`, if there is one. -/
def Operator.ofName? (name : String) : Option Operator :=
  [Operator.and, .or, .not].find? (·.name == name)

/-- Which records a query finds. -/
inductive Filter (C : Type)
  | node (operator : Operator) (children : List (Filter C))
  | condition (c : C)
deriving Repr, Inhabited

namespace Filter

variable {C : Type}

/-- All of `fs` hold. -/
def all (fs : List (Filter C)) : Filter C := .node .and fs

/-- Some of `fs` holds. -/
def any (fs : List (Filter C)) : Filter C := .node .or fs

/-- None of `fs` holds. -/
def none (fs : List (Filter C)) : Filter C := .node .not fs

/-- Combines two filters; if `f` is a node of the operator `op`, it takes `g` as its last child. -/
def join (op : Operator) (f g : Filter C) : Filter C :=
  match f with
  | .node o children => if o = op then .node o (children ++ [g]) else .node op [f, g]
  | f => .node op [f, g]

instance : AndOp (Filter C) := ⟨join .and⟩

instance : OrOp (Filter C) := ⟨join .or⟩

instance : Complement (Filter C) := ⟨fun f => none [f]⟩

/-! ### Meaning -/

mutual

/-- Whether a filter holds where `v` tells which conditions do. -/
def holds (v : C → Bool) : Filter C → Bool
  | .node .and fs => allHold v fs
  | .node .or fs => someHolds v fs
  | .node .not fs => !someHolds v fs
  | .condition c => v c
termination_by structural f => f

/-- Whether every filter of a list holds. -/
def allHold (v : C → Bool) : List (Filter C) → Bool
  | [] => true
  | f :: fs => f.holds v && allHold v fs
termination_by structural fs => fs

/-- Whether some filter of a list holds. -/
def someHolds (v : C → Bool) : List (Filter C) → Bool
  | [] => false
  | f :: fs => f.holds v || someHolds v fs
termination_by structural fs => fs

end

mutual

/-- The conditions of a filter, from left to right. -/
def conditions : Filter C → List C
  | .node _ fs => conditionsOf fs
  | .condition c => [c]
termination_by structural f => f

/-- The conditions of a list of filters, from left to right. -/
def conditionsOf : List (Filter C) → List C
  | [] => []
  | f :: fs => f.conditions ++ conditionsOf fs
termination_by structural fs => fs

end

/-! ### Writing -/

section Write

variable [Writable C]

mutual

/-- Writes a filter: a node as its operator and its children, a condition as it is. -/
def writeFilter : Filter C → Except Problem Tree
  | .node op fs => do
    let children ← writeFilters fs
    return .object [("operator", .string op.name), ("conditions", .array children)]
  | .condition c => write c
termination_by structural f => f

/-- Writes every filter of a list. -/
def writeFilters : List (Filter C) → Except Problem (List Tree)
  | [] => .ok []
  | f :: fs => do
    let t ← f.writeFilter
    let ts ← writeFilters fs
    return t :: ts
termination_by structural fs => fs

end

instance : Writable (Filter C) := ⟨writeFilter⟩

end Write

/-! ### Reading -/

/-- The operator that a document names: by a string, or by the one member of an object whose value is
null. -/
def operatorOf? : Tree → Option Operator
  | .string name => Operator.ofName? name
  | .object [(name, .null)] => Operator.ofName? name
  | _ => .none

/-- The values of the members with the name `name`. -/
def valuesOf (name : String) (ms : List (String × Tree)) : List Tree :=
  (ms.filter (·.1 == name)).map (·.2)

/-- The condition that `t` holds. -/
def conditionOf? [Readable C] (t : Tree) : Option (Filter C) :=
  match (read t.draft : Except Problem C) with
  | .ok c => some (.condition c)
  | .error _ => .none

section Read

variable [Readable C]

mutual

/-- The filter that a document holds. An operator node is an object with one `operator` and one
`conditions` member, or an array of the two; all else is taken for a condition. -/
def ofTree? : Tree → Option (Filter C)
  | .object ms =>
    let node := match valuesOf "operator" ms, childrenOf? ms with
      | [op], [some fs] => (operatorOf? op).map fun op => .node op fs
      | _, _ => .none
    node <|> conditionOf? (.object ms)
  | .array [op, .array ts] =>
    let node := match operatorOf? op, ofTrees? ts with
      | some op, some fs => some (.node op fs)
      | _, _ => .none
    node <|> conditionOf? (.array [op, .array ts])
  | t => conditionOf? t
termination_by structural t => t

/-- The filters in a list of documents, if each holds one. -/
def ofTrees? : List Tree → Option (List (Filter C))
  | [] => some []
  | t :: ts =>
    match ofTree? t, ofTrees? ts with
    | some f, some fs => some (f :: fs)
    | _, _ => .none
termination_by structural ts => ts

/-- For each `conditions` member the filters in its value, if that is an array of them. -/
def childrenOf? : List (String × Tree) → List (Option (List (Filter C)))
  | [] => []
  | (name, .array ts) :: ms =>
    if name = "conditions" then ofTrees? ts :: childrenOf? ms else childrenOf? ms
  | (name, _) :: ms => if name = "conditions" then .none :: childrenOf? ms else childrenOf? ms
termination_by structural ms => ms

end

instance : Readable (Filter C) where
  read d := do
    let t ← ofFault d.tree?
    match ofTree? t with
    | some f => return f
    | .none => .error (.here (.noVariant "Filter"))

end Read

end Filter

end JmapClient
