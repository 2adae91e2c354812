import JmapClient.Json.Printer
import JmapClient.Json.Problem
import JmapClient.Json.Reader
import JmapClient.Power

/-!
# Data with a JSON form

`Readable` types can be read from a draft and `Writable` types written as a document. A datum is read
from text (`readText`) or from a value (`Value.read`) by the same reader, so the two agree but for what
can only be wrong with a text.
-/

namespace JmapClient.Json

/-- A type whose data can be read from JSON. -/
class Readable (α : Type) where
  read : Draft → Except Problem α

/-- A type whose data can be written as JSON, unless one is refused. -/
class Writable (α : Type) where
  write : α → Except Problem Tree

/-- A type of keys whose text can be written as a member's name, unless it is refused. -/
class WritableKey (κ : Type) where
  writeKey : κ → Except Problem String

export Readable (read)
export Writable (write)
export WritableKey (writeKey)

/-- Reads a datum from the bytes of a text. The first problem in the order of the text counts. -/
def readText {α : Type} [Readable α] (bytes : List UInt8) : Except Problem α :=
  let (d, after) := Draft.ofBytes bytes
  match (read d : Except Problem α) with
  | .error p => .error p.inText
  | .ok a =>
    match after with
    | none => .ok a
    | some f => .error (.fault f)

/-- Reads a datum from a value. -/
def Value.read {α : Type} [Readable α] (v : Value) : Except Problem α := Json.read v.draft

/-- Writes a datum as a value. -/
def toValue {α : Type} [Writable α] (a : α) : Except Problem Value := (write a).map .ofTree

/-- Writes a datum as text. -/
def toText {α : Type} [Writable α] (a : α) : Except Problem String := (write a).map (·.print)

/-- Turns the fault of a text into a problem. -/
def ofFault {α : Type} : Except Fault α → Except Problem α
  | .ok a => .ok a
  | .error f => .error (.fault f)

/-! ### Scalars and values -/

instance : Readable String where
  read
    | .string s => .ok s
    | d => .error (d.unlike "a string")

instance : Writable String where
  write s := .ok (.string s)

instance : WritableKey String where
  writeKey s := .ok s

instance : Readable Bool where
  read
    | .bool b => .ok b
    | d => .error (d.unlike "a boolean")

instance : Writable Bool where
  write b := .ok (.bool b)

/-- Reads an integer from 0 to `2 ^ bits - 1`. -/
def readUnsigned (bits : Nat) (d : Draft) : Except Problem Nat :=
  let expected := "u" ++ toString bits
  match d with
  | .number (.int n) =>
    if 0 ≤ n ∧ n < twoTo bits then .ok n.toNat else .error (.here (.outOfRange n expected))
  | d => .error (d.unlike expected)

instance : Readable UInt64 where
  read d := (readUnsigned 64 d).map UInt64.ofNat

instance : Writable UInt64 where
  write n := .ok (.number (.int n.toNat))

instance : Readable UInt32 where
  read d := (readUnsigned 32 d).map UInt32.ofNat

instance : Writable UInt32 where
  write n := .ok (.number (.int n.toNat))

instance : Readable UInt16 where
  read d := (readUnsigned 16 d).map UInt16.ofNat

instance : Writable UInt16 where
  write n := .ok (.number (.int n.toNat))

instance : Writable Int64 where
  write n := .ok (.number (.int n.toInt))

instance : Readable Value where
  read d := (ofFault d.tree?).map .ofTree

instance : Writable Value where
  write v := .ok v.tree

/-! ### Options, lists and maps -/

instance {α : Type} [Readable α] : Readable (Option α) where
  read
    | .null => .ok none
    | d => (read d).map some

instance {α : Type} [Writable α] : Writable (Option α) where
  write
    | none => .ok .null
    | some a => write a

/-- Reads an array's items, the first of which has index `n`. -/
def readList {α : Type} [Readable α] (n : Nat) : List Draft → Except Problem (List α)
  | [] => .ok []
  | d :: ds =>
    match (read d : Except Problem α) with
    | .error p => .error (p.under (.index n))
    | .ok a => (readList (n + 1) ds).map (a :: ·)

instance {α : Type} [Readable α] : Readable (List α) where
  read
    | .array deep items cut =>
      if deep then .error (.fault .malformed) else do
        let as ← readList 0 items
        ofFault (Cut.stop cut as)
    | d => .error (d.unlike "a sequence")

/-- Writes each datum of a list. -/
def writeList {α : Type} [Writable α] : List α → Except Problem (List Tree)
  | [] => .ok []
  | a :: as => do
    let t ← write a
    let ts ← writeList as
    return t :: ts

instance {α : Type} [Writable α] : Writable (List α) where
  write as := (writeList as).map .array

/-- Reads an object's members. -/
def readEntries {κ α : Type} [TextKey κ] [Readable α] :
    List (Except Fault String × Draft) → Except Problem (List (κ × α))
  | [] => .ok []
  | (.error f, _) :: _ => .error (.fault f)
  | (.ok k, d) :: ms =>
    match (read d : Except Problem α) with
    | .error p => .error (p.under (.field k))
    | .ok a => (readEntries ms).map ((TextKey.ofText k, a) :: ·)

instance {κ α : Type} [TextKey κ] [Readable α] : Readable (SortedMap κ α) where
  read
    | .object deep members cut =>
      if deep then .error (.fault .malformed) else do
        let es ← readEntries members
        ofFault (Cut.stop cut (.ofList es))
    | d => .error (d.unlike "a map")

/-- Writes each entry of a map. -/
def writeEntries {κ α : Type} [WritableKey κ] [Writable α] :
    List (κ × α) → Except Problem (List (String × Tree))
  | [] => .ok []
  | (k, a) :: es => do
    let key ← writeKey k
    let t ← write a
    let ms ← writeEntries es
    return (key, t) :: ms

instance {κ α : Type} [TextKey κ] [WritableKey κ] [Writable α] : Writable (SortedMap κ α) where
  write m := (writeEntries m.entries).map .object

end JmapClient.Json
