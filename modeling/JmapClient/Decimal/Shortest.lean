import JmapClient.Decimal.Binary64
import JmapClient.Power

/-!
# The shortest decimal that reads back

A binary number `m * 2 ^ q` stands for an interval of reals: those that round to it. `shortest` finds
the decimal `d * 10 ^ k` with the fewest digits in that interval, and of those the one nearest to the
number itself. It walks the grids of one, two, … seventeen digits and tests, in exact arithmetic, the
two points of the grid around the number.
-/

namespace JmapClient.Decimal

/-- The exponent of the leading decimal digit of `a / b`, for positive `a` and `b`. -/
def leadingExponent (a b : Nat) : Int :=
  if b ≤ a then ((Nat.toDigits 10 (a / b)).length : Int) - 1
  else
    let places := (Nat.toDigits 10 (b / a)).length
    if b = a * tenTo (places - 1) then 1 - (places : Int) else -(places : Int)

/-- A grid of decimals over a binary number: `x * 2 ^ (q - 2)` is `x * numer / denom` steps of it. -/
structure Grid where
  numer : Nat
  denom : Nat

/-- The grid of the multiples of `10 ^ k`, over a number with binary exponent `q`. -/
def Grid.of (q k : Int) : Grid where
  numer := twoTo (q - 2).toNat * tenTo (-k).toNat
  denom := twoTo (2 - q).toNat * tenTo k.toNat

/-- The point of a grid nearest to `m * 2 ^ q` among those that round to it. Of two points equally near
the even one is taken. -/
def Grid.nearest? (g : Grid) (m : Nat) (closeBelow : Bool) : Option Nat :=
  let low := (4 * m - if closeBelow then 1 else 2) * g.numer
  let mid := 4 * m * g.numer
  let high := (4 * m + 2) * g.numer
  let inside (c : Nat) : Bool :=
    if m % 2 = 0 then decide (low ≤ c * g.denom ∧ c * g.denom ≤ high)
    else decide (low < c * g.denom ∧ c * g.denom < high)
  let below := mid / g.denom
  let above := below + 1
  let gapBelow := mid - below * g.denom
  let gapAbove := above * g.denom - mid
  match inside below, inside above with
  | true, true =>
    if gapBelow < gapAbove then some below
    else if gapAbove < gapBelow then some above
    else some (if below % 2 = 0 then below else above)
  | true, false => some below
  | false, true => some above
  | false, false => none

/-- The same decimal without trailing zeros. -/
def withoutZeros (d : Nat) (k : Int) : Nat × Int :=
  if h : d ≠ 0 ∧ d % 10 = 0 then withoutZeros (d / 10) (k + 1) else (d, k)
termination_by d
decreasing_by omega

/-- The digits and the power of ten of the shortest decimal that rounds to the positive number
`m * 2 ^ q`. -/
def shortest (m : Nat) (q : Int) (closeBelow : Bool) : Nat × Int :=
  let leading := leadingExponent (m * twoTo q.toNat) (twoTo (-q).toNat)
  let attempt (n : Nat) : Option (Nat × Int) :=
    let k := leading - (n : Int)
    ((Grid.of q k).nearest? m closeBelow).map fun d => (d, k)
  let found := ((List.range 17).findSome? attempt).getD (m, q)
  withoutZeros found.1 found.2

end JmapClient.Decimal
