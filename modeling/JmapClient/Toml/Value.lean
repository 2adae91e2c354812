import JmapClient.Power

/-!
# TOML tables

A TOML document makes a table, one statement at a time. `Table.alter` follows the path of keys that a
statement names and changes what it leads to. It fails where the path would add to a table that is
complete: each table knows how it came to be (`Kind`), and by that what may still be added to it.
-/

namespace JmapClient.Toml

/-- How a table came to be. -/
inductive Kind
  /-- By its own header, or it is the whole document. -/
  | headed
  /-- By the header of a table within it. -/
  | implied
  /-- By a key with points. -/
  | dotted
  /-- Between braces, where it is complete. -/
  | inline
deriving DecidableEq, Repr

/-- A number that is written with a point or an exponent, or as a word. -/
inductive Quantity
  /-- A signed `significand * 10 ^ exponent`. -/
  | decimal (negative : Bool) (significand : Nat) (exponent : Int)
  /-- Beyond all numbers, or no number. -/
  | word
deriving DecidableEq, Repr

/-- A value. Of dates and times only the text is kept. -/
inductive Value
  | text (s : String)
  | integer (n : Int)
  | quantity (q : Quantity)
  | moment (literal : String)
  | bool (b : Bool)
  | array (items : List Value)
  | table (kind : Kind) (entries : List (String × Value))
  /-- Tables that headers in double brackets made. -/
  | tables (ts : List (List (String × Value)))
deriving Repr, Inhabited

/-! ### Range -/

/-- The least number that is no longer nearest to a binary number of 64 bits. -/
def Quantity.bound : Nat := twoTo 1024 - twoTo 970

/-- Whether there is a binary number of 64 bits for a number. The count of its places decides for all but
those of 309 places. -/
def Quantity.isInRange : Quantity → Bool
  | word => true
  | decimal _ significand exponent =>
    let places := (Nat.repr significand).length + exponent
    significand = 0 ∨ places ≤ 308 ∨
      (places = 309 ∧
        if 0 ≤ exponent then significand * tenTo exponent.toNat < bound
        else significand < bound * tenTo exponent.natAbs)

mutual

/-- Whether all numbers in a value are in range. Integers have up to 128 bits, signed or unsigned. -/
def Value.isInRange : Value → Bool
  | .integer n => -(twoTo 127 : Int) ≤ n && n < twoTo 128
  | .quantity q => q.isInRange
  | .array vs => areInRange vs
  | .table _ es => entriesInRange es
  | .tables ts => tablesInRange ts
  | .text _ | .moment _ | .bool _ => true
termination_by structural v => v

/-- Whether all numbers in a list of values are in range. -/
def areInRange : List Value → Bool
  | [] => true
  | v :: vs => v.isInRange && areInRange vs
termination_by structural vs => vs

/-- Whether all numbers in the entries of a table are in range. -/
def entriesInRange : List (String × Value) → Bool
  | [] => true
  | (_, v) :: es => v.isInRange && entriesInRange es
termination_by structural es => es

/-- Whether all numbers in a list of tables are in range. -/
def tablesInRange : List (List (String × Value)) → Bool
  | [] => true
  | es :: ts => entriesInRange es && tablesInRange ts
termination_by structural ts => ts

end

/-! ### Tables -/

/-- The entries of a table, in the order in which they were made. -/
abbrev Table : Type := List (String × Value)

/-- A step into a table within a table. -/
inductive Step
  /-- By a key of a header. -/
  | header (key : String)
  /-- By a key of a statement, with a point behind it. -/
  | dotted (key : String)
deriving DecidableEq, Repr

namespace Step

/-- The key of the table that a step goes to. -/
def key : Step → String
  | header k => k
  | dotted k => k

/-- How a table comes to be that a step finds missing. -/
def made : Step → Kind
  | header _ => .implied
  | dotted _ => .dotted

/-- Whether a step may go into a table. -/
def mayEnter : Step → Kind → Bool
  | _, .inline => false
  | header _, _ => true
  | dotted _, kind => kind = .implied ∨ kind = .dotted

end Step

namespace Table

/-- The value of a key. -/
def find? (t : Table) (key : String) : Option Value := t.lookup key

/-- Gives a key its value, in the place of the one that it has. -/
def put (key : String) (v : Value) : Table → Table
  | [] => [(key, v)]
  | e :: es => if e.1 = key then (key, v) :: es else e :: put key v es

/-- Changes the value of a key in the table that some steps lead to. What becomes of it may depend on the
kind of that table. Of the tables of an array the last is gone into. -/
def alter (change : Kind → Option Value → Option Value) (key : String) :
    List Step → Kind → Table → Option Table
  | [], kind, t => do
    let v ← change kind (t.find? key)
    return t.put key v
  | s :: steps, _, t =>
    match t.find? s.key with
    | none => do
      let inner ← alter change key steps s.made []
      return t.put s.key (.table s.made inner)
    | some (.table kind es) =>
      if s.mayEnter kind then do
        let inner ← alter change key steps kind es
        return t.put s.key (.table kind inner)
      else none
    | some (.tables ts) => do
      let last ← ts.getLast?
      let inner ← alter change key steps .headed last
      return t.put s.key (.tables (ts.dropLast ++ [inner]))
    | some _ => none

/-- The last of some keys and those before it. -/
def parts : List String → Option (List String × String)
  | [] => none
  | [k] => some ([], k)
  | k :: ks => do
    let (before, last) ← parts ks
    return (k :: before, last)

/-- Begins the table that a header names. -/
def begin (path : List String) (t : Table) : Option Table := do
  let (before, last) ← parts path
  let change : Kind → Option Value → Option Value
    | _, none => some (.table .headed [])
    | _, some (.table .implied es) => some (.table .headed es)
    | _, some _ => none
  alter change last (before.map .header) .headed t

/-- Begins one more table of the array that a header in double brackets names. -/
def beginItem (path : List String) (t : Table) : Option Table := do
  let (before, last) ← parts path
  let change : Kind → Option Value → Option Value
    | _, none => some (.tables [[]])
    | _, some (.tables ts) => some (.tables (ts ++ [[]]))
    | _, some _ => none
  alter change last (before.map .header) .headed t

/-- Gives a key, which may have points, a value in the table that a header names. Neither may a key have
two values nor a table come to be in two ways. -/
def define (place path : List String) (v : Value) (t : Table) : Option Table := do
  let (before, last) ← parts path
  let change : Kind → Option Value → Option Value
    | kind, none => if (kind == .dotted) == !before.isEmpty then some v else none
    | _, some _ => none
  alter change last (place.map .header ++ before.map .dotted) .headed t

end Table

end JmapClient.Toml
