import JmapClient.Decimal.Binary64

/-!
# Reading a decimal by scaling

`scaled` turns a significand of at most 64 bits and a power of ten into a binary number, by one rounded
conversion and then one rounded multiplication or division for every factor of at most `10 ^ 308`.
-/

namespace JmapClient.Decimal

/-- The machine number nearest to `10 ^ n`. -/
def powerOfTen (n : Nat) : Float := Float.ofScientific 1 false n

/-- Scales by `10 ^ e`; `none` if the result is too large for the format. -/
def scaleFloat (x : Float) (e : Int) : Option Float :=
  if e.natAbs ≤ 308 then
    if 0 ≤ e then
      let y := x * powerOfTen e.toNat
      if y.isInf then none else some y
    else some (x / powerOfTen e.natAbs)
  else if x == 0 then some x
  else if 0 ≤ e then none
  else scaleFloat (x / powerOfTen 308) (e + 308)
termination_by e.natAbs
decreasing_by omega

/-- The number `± significand * 10 ^ exponent`, or `none` if it is too large for the format. -/
def scaled (negative : Bool) (significand : Nat) (exponent : Int) : Option Binary64 :=
  (scaleFloat significand.toUInt64.toFloat exponent).map fun x =>
    .ofFloat (if negative then -x else x)

end JmapClient.Decimal
