import JmapClient.Decimal.Scaling
import JmapClient.Decimal.Shortest
import JmapClient.Power

/-!
# JSON numbers

A number is an integer of at most 64 bits, signed or unsigned, or a finite binary floating point number.
`Numeral` is a numeral cut into its parts; `Numeral.value` decides which of the two it denotes.
`Number.render` writes integers plainly and all others in the fewest digits that read back, always with a
point or an exponent.
-/

namespace JmapClient.Json

open JmapClient.Decimal

/-- A JSON number. -/
inductive Number
  | int (n : Int)
  | float (x : Binary64)
deriving DecidableEq, Repr

/-! ### Writing -/

/-- Where positional notation ends. -/
structure FloatNotation where
  /-- The most places before the point that are written out. -/
  maxWhole : Int
  /-- The most zeros between the point and the first digit that are written out. -/
  maxZeros : Int

/-- Numbers are written positionally from five places after the point to sixteen before it. All others
have an exponent with a sign. -/
def Number.floatNotation : FloatNotation := ⟨16, 4⟩

/-- The text of an exponent. -/
def exponentText (e : Int) : String := (if e < 0 then "-" else "+") ++ Nat.repr e.natAbs

/-- Writes `d * 10 ^ k` as a numeral that is not an integer's. -/
def FloatNotation.render (f : FloatNotation) (d : Nat) (k : Int) : String :=
  let digits := (Nat.repr d).toList
  let point := k + digits.length
  let text (cs : List Char) := String.ofList cs
  if 0 ≤ k ∧ point ≤ f.maxWhole then
    text (digits ++ List.replicate k.toNat '0') ++ ".0"
  else if 0 < point ∧ point ≤ f.maxWhole then
    text (digits.take point.toNat) ++ "." ++ text (digits.drop point.toNat)
  else if point ≤ 0 ∧ -f.maxZeros ≤ point then
    "0." ++ text (List.replicate (-point).toNat '0' ++ digits)
  else
    let mantissa := match digits.drop 1 with
      | [] => text digits
      | rest => text (digits.take 1) ++ "." ++ text rest
    mantissa ++ "e" ++ exponentText (point - 1)

/-- The numeral of a number. -/
def Number.render : Number → String
  | .int n => toString n
  | .float x =>
    let (m, q) := x.magnitude
    let text := if m = 0 then "0.0" else
      let (d, k) := shortest m q x.closeBelow
      Number.floatNotation.render d k
    if x.isNegative then "-" ++ text else text

/-! ### Reading -/

/-- A numeral: its sign, the digits before the point, those after it and the exponent, the last two if it
has them. -/
structure Numeral where
  negative : Bool
  whole : List Nat
  fraction : Option (List Nat)
  exponent : Option Int

/-- Appends digits to a significand as long as it stays below `2 ^ 64`. The second part is the number of
digits that found room. -/
def absorb (significand : Nat) : List Nat → Nat × Nat
  | [] => (significand, 0)
  | d :: ds =>
    let next := significand * 10 + d
    if next < twoTo 64 then
      let (s, n) := absorb next ds
      (s, n + 1)
    else (significand, 0)

/-- The number that a numeral denotes, or `none` if it is too large for a floating point number. Integers
of up to 64 bits are kept as they are, except the negative zero. -/
def Numeral.value (n : Numeral) : Option Number :=
  let (whole, used) := absorb 0 n.whole
  let dropped := n.whole.length - used
  let float (significand : Nat) (exponent : Int) : Option Number :=
    (scaled n.negative significand (exponent + n.exponent.getD 0)).map .float
  match n.fraction with
  | some digits =>
    let (significand, places) := absorb whole digits
    float significand ((dropped : Int) - places)
  | none =>
    if n.exponent.isSome ∨ 0 < dropped then float whole dropped
    else if n.negative then
      if 0 < whole ∧ whole ≤ twoTo 63 then some (.int (-whole)) else float whole 0
    else some (.int whole)

end JmapClient.Json
