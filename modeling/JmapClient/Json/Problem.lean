import JmapClient.Quoted
import JmapClient.Json.Draft
import JmapClient.Power

/-!
# Why a document cannot be read

A `Problem` is a fault of the text or a mismatch between what was found and what was expected, together
with the path to the place. `Mismatch.message` is the wording of a mismatch and `pathText` that of a path.
-/

namespace JmapClient.Json

/-- What kind of value was found. -/
inductive Found
  | null
  | bool (b : Bool)
  | number (n : Number)
  | string (s : String)
  | sequence
  | map
deriving Repr

/-- Why a well-formed value is not the one wanted. -/
inductive Mismatch
  | wrongType (found : Found) (expected : String)
  | outOfRange (n : Int) (expected : String)
  | tooFew (n : Nat) (expected : String)
  | tooMany (n : Nat)
  | missingField (name : String)
  | duplicateField (name : String)
  | noVariant (name : String)
  | refused (message : String)
deriving Repr

/-- A step of the way from a document to one of its parts. -/
inductive Segment
  | field (name : String)
  | index (n : Nat)
deriving DecidableEq, Repr

/-- Why a document cannot be read, or a datum not be written. -/
inductive Problem
  | fault (f : Fault)
  | mismatch (path : List Segment) (m : Mismatch)
deriving Repr

/-- The kind of a value, in words. -/
def Found.describe : Found → String
  | .null => "null"
  | .bool b => "boolean `" ++ toString b ++ "`"
  | .number (.int n) => "integer `" ++ toString n ++ "`"
  | .number (.float x) => "floating point `" ++ (Number.float x).render ++ "`"
  | .string s => "string " ++ Quoted.text s
  | .sequence => "sequence"
  | .map => "map"

/-- The wording of a mismatch. -/
def Mismatch.message : Mismatch → String
  | .wrongType found expected => "invalid type: " ++ found.describe ++ ", expected " ++ expected
  | .outOfRange n expected =>
    "invalid value: integer `" ++ toString n ++ "`, expected " ++ expected
  | .tooFew n expected => "invalid length " ++ toString n ++ ", expected " ++ expected
  | .tooMany n => "invalid length " ++ toString n ++ ", expected fewer elements in array"
  | .missingField name => "missing field `" ++ name ++ "`"
  | .duplicateField name => "duplicate field `" ++ name ++ "`"
  | .noVariant name => "data did not match any variant of untagged enum " ++ name
  | .refused message => message

/-- The wording of a fault, which leaves out where it stands. -/
def Fault.message : Fault → String
  | .malformed => "<syntax>"
  | .truncated => "<eof>"

/-- A path in words: names joined by points, indices in brackets, and a point for the root. -/
def pathText : List Segment → String
  | [] => "."
  | s :: ss => ss.foldl (fun text s => text ++ rest s) (first s)
where
  first : Segment → String
    | .field name => name
    | .index n => "[" ++ toString n ++ "]"
  rest : Segment → String
    | .field name => "." ++ name
    | .index n => "[" ++ toString n ++ "]"

namespace Problem

/-- A mismatch at the place where reading is. -/
def here (m : Mismatch) : Problem := .mismatch [] m

/-- Where the problem is. -/
def path : Problem → List Segment
  | .fault _ => []
  | .mismatch path _ => path

/-- What stands before an ending, both in reverse. -/
def before? (ending : String) (reversed : List Char) : Option (List Char) :=
  let n := ending.length
  if reversed.take n = ending.toList.reverse then some (reversed.drop n) else none

/-- A number of at most 64 bits at an end, in reverse, and what stands before it. -/
def countBefore? (reversed : List Char) : Option (Nat × List Char) :=
  let digits := (reversed.takeWhile Char.isDigit).reverse
  let n := digits.foldl (fun n c => n * 10 + (c.toNat - '0'.toNat)) 0
  if digits.isEmpty ∨ twoTo 64 ≤ n then none else some (n, reversed.dropWhile Char.isDigit)

/-- The line and the column of a text at which some words, in reverse, end, and the words before. -/
def placeAtEnd? (reversed : List Char) : Option (List Char × Nat × Nat) := do
  let (column, rest) ← countBefore? reversed
  let (line, rest) ← countBefore? (← before? " column " rest)
  return (← before? " at line " rest, line, column)

/-- A problem in given words. A place at their end is written in plain numbers. It is left out if its line
is 0, which no text has. -/
def ofText (words : String) : Problem :=
  here (.refused (match placeAtEnd? words.toList.reverse with
    | none => words
    | some (front, line, column) =>
      String.ofList front.reverse ++
        if line = 0 then "" else " at line " ++ toString line ++ " column " ++ toString column))

/-- The problem in words, without its place. -/
def message : Problem → String
  | .fault f => f.message
  | .mismatch _ m => m.message

/-- The problem as seen from around the part where it arose. -/
def under (s : Segment) : Problem → Problem
  | .fault f => .fault f
  | .mismatch path m => .mismatch (s :: path) m

/-- The problem as a reader of text meets it: items beyond those wanted break the grammar. -/
def inText : Problem → Problem
  | .mismatch _ (.tooMany _) => .fault .malformed
  | p => p

end Problem

/-- The kind of value that a draft holds, or the fault in its place. An array or object is known by its
bracket. -/
def Draft.found : Draft → Except Fault Found
  | .null => .ok .null
  | .bool b => .ok (.bool b)
  | .number n => .ok (.number n)
  | .string s => .ok (.string s)
  | .bad read _ => .error read
  | .array _ _ _ => .ok .sequence
  | .object _ _ _ => .ok .map

/-- The problem with a draft where something else was expected. -/
def Draft.unlike (d : Draft) (expected : String) : Problem :=
  match d.found with
  | .ok found => .here (.wrongType found expected)
  | .error f => .fault f

end JmapClient.Json
