/-!
# Punycode

A label with characters outside ASCII is written in ASCII alone: the characters of ASCII come first, then
after a hyphen a list of numbers says which others to insert and where. Each number counts the steps from
one insertion to the next, where one step is one place further, or the next code point after the last
place. The digits of a number come lowest first, `a` to `z` and `0` to `9`. A digit ends its number if it
is below a threshold, which depends on its position and on the size of the numbers before.
-/

namespace JmapClient.Idna.Punycode

/-- The digit with the value `n`, below 36. -/
def digit (n : Nat) : Char := Char.ofNat (if n < 26 then 'a'.toNat + n else '0'.toNat + (n - 26))

/-- The value of the digit `c`, in either case. -/
def digitValue? (c : Char) : Option Nat :=
  if c.isDigit then some (c.toNat - '0'.toNat + 26)
  else if c.isAlpha then some (c.toLower.toNat - 'a'.toNat)
  else none

/-- The threshold of the digit at a `position`, counted from one, for a `bias`. It lies between 1 and 26. -/
def threshold (bias position : Nat) : Nat := min 26 (max 1 (36 * position - bias))

theorem threshold_pos (bias position : Nat) : 0 < threshold bias position := by
  unfold threshold; omega

/-- How often a number is divided until it is small, and what is left of it. -/
def reduced (n : Nat) : Nat × Nat :=
  if n ≤ 455 then (0, n)
  else
    let (times, rest) := reduced (n / 35)
    (times + 1, rest)

/-- The bias after a number, when the label has `length` characters so far. The first number is taken for
much smaller, since it spans all code points before the script of the label. -/
def bias (isFirst : Bool) (number length : Nat) : Nat :=
  let part := if isFirst then number / 700 else number / 2
  let (times, rest) := reduced (part + part / length)
  36 * times + 36 * rest / (rest + 38)

/-! ### Writing -/

/-- The digits of `n` from a `position` on. -/
def numeral (bias position n : Nat) : List Char :=
  let t := threshold bias position
  if n < t then [digit n]
  else digit (t + (n - t) % (36 - t)) :: numeral bias (position + 1) ((n - t) / (36 - t))
termination_by n
decreasing_by
  have := threshold_pos bias position
  have := Nat.div_le_self (n - threshold bias position) (36 - threshold bias position)
  omega

/-- A character to be inserted, and the place that it gets among those that are there already. -/
structure Insertion where
  char : Char
  place : Nat
deriving DecidableEq, Repr

/-- Whether `c` is in ASCII. -/
def isAscii (c : Char) : Bool := c.toNat < 0x80

/-- The insertions that are left, in order, when those in `before` precede them in the label. -/
def insertionsAfter (before : List Char) : List Char → List Insertion
  | [] => []
  | c :: cs =>
    let rest := insertionsAfter (before ++ [c]) cs
    if isAscii c then rest else ⟨c, (before.filter (· ≤ c)).length⟩ :: rest

/-- The insertions that make a label out of its characters in ASCII: by code point, then from left to
right. -/
def insertions (label : List Char) : List Insertion :=
  (insertionsAfter [] label).mergeSort fun a b => a.char ≤ b.char

/-- The state between two insertions: the code point and the place to count from, the length of the label
so far, and the bias. -/
structure Cursor where
  code : Nat
  place : Nat
  length : Nat
  bias : Nat

/-- The state before the first insertion into `length` characters. -/
def Cursor.start (length : Nat) : Cursor := ⟨0x80, 0, length, 72⟩

/-- The state after a `number` that leads to the code point `code` and to `place`. -/
def Cursor.after (k : Cursor) (isFirst : Bool) (number code place : Nat) : Cursor :=
  ⟨code, place + 1, k.length + 1, Punycode.bias isFirst number (k.length + 1)⟩

/-- The numbers for some insertions, from the state `k` on. -/
def numerals (k : Cursor) (isFirst : Bool) : List Insertion → List Char
  | [] => []
  | i :: is =>
    let number := (i.char.toNat - k.code) * (k.length + 1) + i.place - k.place
    numeral k.bias 1 number ++ numerals (k.after isFirst number i.char.toNat i.place) false is

/-- A label in ASCII. -/
def encode (label : List Char) : List Char :=
  let basic := label.filter isAscii
  (if basic.isEmpty then [] else basic ++ ['-']) ++
    numerals (.start basic.length) true (insertions label)

/-! ### Reading -/

/-- Reads the rest of a number, its value so far being `sum` and the weight of the next digit `weight`.
What is left is shorter. -/
def number? (bias position weight sum : Nat) :
    (cs : List Char) → Option (Nat × { rest : List Char // rest.length < cs.length })
  | [] => none
  | c :: cs => do
    let d ← digitValue? c
    let t := threshold bias position
    if d < t then return (sum + d * weight, ⟨cs, by simp⟩)
    let (n, rest) ← number? bias (position + 1) (weight * (36 - t)) (sum + d * weight) cs
    return (n, ⟨rest.1, by have := rest.2; simp; omega⟩)

/-- Makes the insertions that the numbers of `cs` ask for. -/
def inserted? (k : Cursor) (isFirst : Bool) (label cs : List Char) : Option (List Char) :=
  if cs.isEmpty then some label
  else
    match number? k.bias 1 1 0 cs with
    | none => none
    | some (n, rest) =>
      let steps := k.place + n
      let code := k.code + steps / (k.length + 1)
      let place := steps % (k.length + 1)
      if code.isValidChar then
        inserted? (k.after isFirst n code place) false (label.insertIdx place (Char.ofNat code)) rest.1
      else none
termination_by cs.length
decreasing_by exact rest.2

/-- The label that is written in ASCII as `cs`. -/
def decode? (cs : List Char) : Option (List Char) :=
  let (last, before) := cs.reverse.span (· ≠ '-')
  match before with
  | _ :: c :: basic =>
    let basic := (c :: basic).reverse
    inserted? (.start basic.length) true basic last.reverse
  | _ => inserted? (.start 0) true [] cs

end JmapClient.Idna.Punycode
