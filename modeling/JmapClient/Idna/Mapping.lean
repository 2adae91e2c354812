import JmapClient.Hex
import JmapClient.Idna.Mapping.Table

/-!
# Spellings of the name of a host

A name may be written in capital letters, in letters of full width, with ligatures and with invisible
characters. `mapped?` gives the one spelling that stands for them all.
-/

namespace JmapClient.Idna

/-- What becomes of a character. -/
inductive Standing
  | valid
  | replaced (characters : List Char)
  | leftOut
  | disallowed
deriving DecidableEq, Repr

namespace Mapping

/-- The character that stands in the place of the one with the code point `n`. -/
def Shift.replacement? (s : Shift) (n : Nat) : Option Nat :=
  if s.first ≤ n ∧ n ≤ s.last ∧ (n - s.first) % s.step = 0 then some (s.target + (n - s.first)) else none

/-- The number that the hexadecimal digits `cs` write. -/
def hexNumber (cs : List Char) : Nat := cs.foldl (fun n c => n * 16 + (hexValue? c).getD 0) 0

/-- The characters whose code points are written in `cs` with full stops between them. -/
def characters (cs : List Char) : List Char :=
  (cs.splitOn '.').map fun digits => Char.ofNat (hexNumber digits)

/-- What a `run` of replaced characters gives for the one with the code point `n`. -/
def inList? (n : Nat) (run : Nat × String) : Option (List Char) :=
  if n < run.1 ∨ run.1 + run.2.length < n then none
  else ((run.2.toList.splitOn ' ')[n - run.1]?).map characters

/-- What stands in the place of `c`, if it is replaced. -/
def replacement? (c : Char) : Option (List Char) :=
  (shifts.findSome? fun s => (s.replacement? c.toNat).map fun n => [Char.ofNat n]).or
    (lists.findSome? (inList? c.toNat))

end Mapping

/-- What becomes of a character. -/
def standing (c : Char) : Standing :=
  match Mapping.replacement? c with
  | some cs => .replaced cs
  | none =>
    if Mapping.ignored.has c then .leftOut
    else if Mapping.disallowed.has c then .disallowed
    else .valid

/-- A name in the spelling that stands for all; `none` if it has a character that no name may have. -/
def mapped? (cs : List Char) : Option (List Char) :=
  (cs.mapM fun c =>
    match standing c with
    | .valid => some [c]
    | .replaced cs => some cs
    | .leftOut => some []
    | .disallowed => none).map List.flatten

end JmapClient.Idna
