import JmapClient.Power

/-!
# Binary floating point numbers

`Binary64` holds a finite number as the 64 bits of its format. `magnitude` takes it apart into the
`m` and `q` of its absolute value `m * 2 ^ q`.
-/

namespace JmapClient.Decimal

/-- A number in the 64-bit binary floating point format, given by its bits. -/
structure Binary64 where
  bits : UInt64
deriving DecidableEq, Repr

namespace Binary64

/-- The bits of a machine number. -/
def ofFloat (x : Float) : Binary64 := ⟨x.toBits⟩

/-- Whether the sign bit is set, as it is on the negative zero too. -/
def isNegative (x : Binary64) : Bool := decide (twoTo 63 ≤ x.bits.toNat)

/-- The eleven bits that hold the exponent. -/
def exponentField (x : Binary64) : Nat := x.bits.toNat / twoTo 52 % twoTo 11

/-- The fifty-two bits below the leading one. -/
def fraction (x : Binary64) : Nat := x.bits.toNat % twoTo 52

/-- The absolute value `m * 2 ^ q` of the number, as the pair of `m` and `q`. -/
def magnitude (x : Binary64) : Nat × Int :=
  if x.exponentField = 0 then (x.fraction, -1074)
  else (twoTo 52 + x.fraction, (x.exponentField : Int) - 1075)

/-- Whether the number below is half as far away as the one above: at a power of two. -/
def closeBelow (x : Binary64) : Bool := x.fraction = 0 && decide (1 < x.exponentField)

end Binary64

end JmapClient.Decimal
