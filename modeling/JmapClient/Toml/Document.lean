import JmapClient.Toml.Scalar
import JmapClient.Toml.Text

/-!
# TOML documents

`Table.ofText?` reads a document: a table that headers and statements make line by line. Arrays and tables
in one piece may go on over several lines.
-/

namespace JmapClient.Toml

open Text

/-! ### Between values -/

/-- What follows a comment and the end of its line. -/
def afterComment? : List Char → Option (List Char)
  | [] => some []
  | '\n' :: rest => some rest
  | '\r' :: '\n' :: rest => some rest
  | c :: rest => if isControl c then none else afterComment? rest

/-- What follows the end of a line, before which there may be blanks and a comment. -/
def afterLine? (cs : List Char) : Option (List Char) :=
  match cs.dropWhile isBlank with
  | [] => some []
  | '#' :: rest => afterComment? rest
  | rest => afterBreak? rest

/-- What follows blanks, line breaks and comments, which it may be inside of. -/
def afterSpace? (inComment : Bool) : List Char → Option (List Char)
  | [] => some []
  | '\n' :: rest => afterSpace? false rest
  | '\r' :: rest => if rest.head? = some '\n' then afterSpace? inComment rest else none
  | c :: rest =>
    if inComment then if isControl c then none else afterSpace? true rest
    else if isBlank c then afterSpace? false rest
    else if c = '#' then afterSpace? true rest
    else some (c :: rest)

/-! ### Keys -/

/-- Whether a character may stand in a key without quotes. -/
def isBare (c : Char) : Bool := c.isAlphanum ∨ c = '_' ∨ c = '-'

/-- Reads a key without points. -/
def key? (cs : List Char) : Option (String × List Char) :=
  match cs with
  | '"' :: _ | '\'' :: _ => (readShort cs).map fun r => (String.ofList r.1, r.2)
  | cs =>
    let key := cs.takeWhile isBare
    if key.isEmpty then none else some (String.ofList key, cs.dropWhile isBare)

/-- Reads no more than `most` keys with points between them and blanks around. -/
def keys? : Nat → List Char → Option (List String × List Char)
  | 0, _ => none
  | most + 1, cs => do
    let (k, rest) ← key? (cs.dropWhile isBlank)
    match rest.dropWhile isBlank with
    | '.' :: rest => do
      let (ks, rest) ← keys? most rest
      return (k :: ks, rest)
    | rest => return ([k], rest)

/-- How deep arrays and tables may nest, and how many keys may follow one another. -/
def depthLimit : Nat := 80

/-- Reads a key, which may have points. -/
def path? (cs : List Char) : Option (List String × List Char) := keys? depthLimit cs

/-! ### Values -/

/-- Reads what is left of an array. There are no more than `fuel` items. -/
def items? (value? : List Char → Option (Value × List Char)) :
    Nat → List Char → Option (List Value × List Char)
  | 0, _ => none
  | fuel + 1, cs => do
    match ← afterSpace? false cs with
    | ']' :: rest => return ([], rest)
    | cs => do
      let (v, rest) ← value? cs
      match ← afterSpace? false rest with
      | ']' :: rest => return ([v], rest)
      | ',' :: rest => do
        let (vs, rest) ← items? value? fuel rest
        return (v :: vs, rest)
      | _ => none

/-- Reads what is left of a table in one piece, of which `t` was read. There are no more than `fuel`
entries. -/
def entries? (value? : List Char → Option (Value × List Char)) :
    Nat → Table → List Char → Option (Table × List Char)
  | 0, _, _ => none
  | fuel + 1, t, cs => do
    match ← afterSpace? false cs with
    | '}' :: rest => return (t, rest)
    | cs => do
      let (path, rest) ← path? cs
      let rest ← after? '=' (← afterSpace? false rest)
      let (v, rest) ← value? (← afterSpace? false rest)
      let t ← t.define [] path v
      match ← afterSpace? false rest with
      | '}' :: rest => return (t, rest)
      | ',' :: rest => entries? value? fuel t rest
      | _ => none

/-- Reads a value in which arrays and tables nest no more than `depth` deep. -/
def value? (depth : Nat) (cs : List Char) : Option (Value × List Char) :=
  match cs with
  | '"' :: _ | '\'' :: _ => (read cs).map fun r => (.text (String.ofList r.1), r.2)
  | '[' :: rest =>
    match depth with
    | 0 => none
    | d + 1 => (items? (value? d) (rest.length + 1) rest).map fun r => (.array r.1, r.2)
  | '{' :: rest =>
    match depth with
    | 0 => none
    | d + 1 => (entries? (value? d) (rest.length + 1) [] rest).map fun r => (.table .inline r.1, r.2)
  | cs => do
    let (w, rest) := word cs
    let v ← scalar? w
    return (v, rest)

/-! ### Lines -/

/-- A document that is being read. -/
structure Page where
  table : Table
  /-- The keys of the last header. -/
  place : List String

/-- Reads a header or a statement, with the end of its line. -/
def Page.statement? (p : Page) (cs : List Char) : Option (Page × List Char) :=
  match cs with
  | '[' :: '[' :: rest => do
    let (path, rest) ← path? rest
    let rest ← afterLine? (← after? ']' (← after? ']' rest))
    return (⟨← p.table.beginItem path, path⟩, rest)
  | '[' :: rest => do
    let (path, rest) ← path? rest
    let rest ← afterLine? (← after? ']' rest)
    return (⟨← p.table.begin path, path⟩, rest)
  | cs => do
    let (path, rest) ← path? cs
    let (v, rest) ← value? depthLimit ((← after? '=' rest).dropWhile isBlank)
    let rest ← afterLine? rest
    return ({ p with table := ← p.table.define p.place path v }, rest)

/-- Reads what is left of a document, of no more than `fuel` lines. -/
def Page.finish? : Nat → Page → List Char → Option Table
  | 0, _, _ => none
  | fuel + 1, p, cs =>
    match cs.dropWhile isBlank with
    | [] => some p.table
    | c :: rest =>
      match afterLine? (c :: rest) with
      | some rest => finish? fuel p rest
      | none => do
        let (p, rest) ← p.statement? (c :: rest)
        finish? fuel p rest

/-- Reads a document. A byte order mark may go before it. -/
def Table.ofText? (text : String) : Option Table :=
  let cs := match text.toList with
    | '\uFEFF' :: rest => rest
    | cs => cs
  Page.finish? (cs.length + 1) ⟨[], []⟩ cs

end JmapClient.Toml
