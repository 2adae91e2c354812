import JmapClient.Percent
import JmapClient.Power
import JmapClient.SortedMap

/-!
# URI templates

A template is text with expressions in braces. Each expression names variables, and an operator at its
front says how their values are put together (`Operator.form`). A variable may be cut to a prefix
(`name:3`) and may end in a star, which changes nothing for a text.

`UriTemplate.expand?` puts the values of variables into a template. Some templates cannot be expanded: a
variable must be written in ASCII, and a prefix, which counts octets, must not cut a character in two.
-/

namespace JmapClient.UriTemplate

/-! ### Templates -/

/-- A piece of a template. -/
inductive Piece
  | literal (text : List Char)
  | expression (text : List Char)
deriving DecidableEq, Repr

/-- The pieces of the text that follows `buffer`, which stands inside or outside of an expression. An
expression that is not closed is a literal. -/
def piecesFrom (inside : Bool) (buffer : List Char) : List Char → List Piece
  | [] => [.literal buffer]
  | c :: cs =>
    if inside then
      if c = '}' then .expression buffer :: piecesFrom false [] cs
      else piecesFrom true (buffer ++ [c]) cs
    else
      if c = '{' then .literal buffer :: piecesFrom true [] cs
      else piecesFrom false (buffer ++ [c]) cs

/-- The pieces of `template`. -/
def pieces (template : String) : List Piece := piecesFrom false [] template.toList

/-- How the values of an expression are put together. -/
structure Form where
  /-- What stands in front of the first value. -/
  front : List Char
  separator : Char
  /-- Whether a value has its variable's name before it. -/
  named : Bool
  /-- What stands behind the name of a variable whose value is empty. -/
  ifEmpty : List Char
  /-- Whether the punctuation of URLs stays. -/
  allowReserved : Bool
deriving DecidableEq, Repr

/-- The form that an operator asks for. -/
def formOf? : Char → Option Form
  | '+' => some ⟨[], ',', false, [], true⟩
  | '#' => some ⟨['#'], ',', false, [], true⟩
  | '.' => some ⟨['.'], '.', false, [], false⟩
  | '/' => some ⟨['/'], '/', false, [], false⟩
  | ';' => some ⟨[';'], ';', true, [], false⟩
  | '?' => some ⟨['?'], '&', true, ['='], false⟩
  | '&' => some ⟨['&'], '&', true, ['='], false⟩
  | _ => none

/-- The form of an expression without an operator. -/
def plainForm : Form := ⟨[], ',', false, [], false⟩

/-- A variable in an expression. -/
structure Variable where
  name : String
  /-- How many octets of the value are wanted. -/
  maxOctets : Option Nat
deriving DecidableEq, Repr

/-- The number that the digits `cs` spell, if there is a digit at all and nothing else. -/
def numberOf? (cs : List Char) : Option Nat :=
  if cs.isEmpty ∨ !cs.all Char.isDigit then none
  else some (cs.foldl (fun n c => n * 10 + (c.toNat - '0'.toNat)) 0)

/-- The number of octets that a prefix asks for. One that is no number up to 65535 asks for 9999. -/
def prefixOctets (cs : List Char) : Nat :=
  let digits := match cs with
    | '+' :: rest => rest
    | cs => cs
  match numberOf? digits with
  | some n => if n < twoTo 16 then n else 9999
  | none => 9999

/-- The variable that a text names, if it can be read. -/
def Variable.ofText? (cs : List Char) : Option Variable :=
  if !cs.all (·.toNat < 0x80) then none
  else if cs.getLast? = some '*' then some ⟨String.ofList cs.dropLast, none⟩
  else match cs.dropWhile (· ≠ ':') with
    | [] => some ⟨String.ofList cs, none⟩
    | _ :: count => some ⟨String.ofList (cs.takeWhile (· ≠ ':')), some (prefixOctets count)⟩

/-- An expression. -/
structure Expression where
  form : Form
  items : List Variable
deriving DecidableEq, Repr

/-- The parts of a text between its commas. -/
def splitCommas : List Char → List (List Char)
  | [] => [[]]
  | c :: cs =>
    if c = ',' then [] :: splitCommas cs
    else match splitCommas cs with
      | part :: parts => (c :: part) :: parts
      | [] => [[c]]

/-- The expression that a text spells, if it can be read. No text at all names no variable. -/
def Expression.ofText? : List Char → Option Expression
  | [] => some ⟨plainForm, []⟩
  | c :: cs =>
    let (form, names) := match formOf? c with
      | some form => (form, cs)
      | none => (plainForm, c :: cs)
    ((splitCommas names).mapM Variable.ofText?).map (Expression.mk form)

/-! ### Expansion -/

/-- The first `n` octets of a text, if they do not end within a character. -/
def takeOctets? (n : Nat) (s : String) : Option String :=
  if s.utf8ByteSize ≤ n then some s else Utf8.decode? ((Utf8.encode s).take n)

/-- The encoding of the value `s`: `reserved` or `unreserved`, as the form has it. -/
def Form.encode (f : Form) (s : String) : List Char :=
  if f.allowReserved then Percent.reserved s else Percent.unreserved s

/-- A variable with its `value` in the form `f` of its expression, if the value can be cut. -/
def Variable.expand? (f : Form) (v : Variable) (value : String) : Option (List Char) :=
  if f.named ∧ value.isEmpty then some (Percent.reserved v.name ++ f.ifEmpty)
  else do
    let text ← match v.maxOctets with
      | some n => takeOctets? n value
      | none => some value
    let front := if f.named then Percent.reserved v.name ++ ['='] else []
    return front ++ f.encode text

/-- The variables of an expression that have one of the `values`, with it. -/
def Expression.expand? (values : SortedMap String String) (e : Expression) :
    Option (List Char) := do
  let parts ← (e.items.filterMap fun v =>
    (values.find? v.name).map (v.expand? e.form)).mapM id
  return if parts.isEmpty then [] else e.form.front ++ [e.form.separator].intercalate parts

/-- A piece that can be read. -/
inductive Part
  | literal (text : List Char)
  | expression (e : Expression)
deriving DecidableEq, Repr

/-- Reads a piece, if it can be read. -/
def Piece.part? : Piece → Option Part
  | .literal text => some (.literal text)
  | .expression text => (Expression.ofText? text).map .expression

/-- What a part becomes with `values`. -/
def Part.expand? (values : SortedMap String String) : Part → Option (List Char)
  | .literal text => some (Percent.reserved (String.ofList text))
  | .expression e => e.expand? values

/-- Puts `values` into `template`, unless it cannot be expanded. -/
def expand? (template : String) (values : SortedMap String String) : Option String := do
  let parts ← (pieces template).mapM Piece.part?
  let texts ← parts.mapM (Part.expand? values)
  return String.ofList texts.flatten

end JmapClient.UriTemplate
