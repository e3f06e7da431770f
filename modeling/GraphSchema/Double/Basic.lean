import GraphSchema.Decimal.Shortest

/-
  This file defines binary floating-point numbers of sixty
  four bits: their parts, their equality, their exact values
  and the numbers that round to them.  A number is its bits,
  and all arithmetic on it is exact arithmetic on integers.

  Key definitions include:
    * `Double`
    * `Double.IsNaN`
    * `Double.IsFinite`
    * `Double.Equal`
    * `Double.significand`
    * `Double.power`
    * `Double.roundingInterval`
-/

------------------------------------------------------------
-- Bits
------------------------------------------------------------

namespace GraphSchema

/-
  A double: one bit of sign, eleven bits of exponent and
  fifty-two bits of fraction.
-/
structure Double where
  bits : UInt64

namespace Double

/- The sign bit. -/
def signBit : Nat :=
  0x8000000000000000

/-
  The lowest bit of the exponent, which is also the number
  of fractions and the least normal significand.
-/
def binade : Nat :=
  0x0010000000000000

/- The bits of the magnitude of infinity. -/
def infiniteMagnitude : Nat :=
  0x7FF0000000000000

/- The sign bit is set. -/
def negative (x : Double) : Bool :=
  signBit ≤ x.bits.toNat

/- The bits without the sign. -/
def magnitude (x : Double) : Nat :=
  x.bits.toNat % signBit

/- A double that is no number. -/
def IsNaN (x : Double) : Prop :=
  infiniteMagnitude < x.magnitude

instance (x : Double) : Decidable x.IsNaN := by
  unfold IsNaN
  infer_instance

/- A double that is a number, and not infinite. -/
def IsFinite (x : Double) : Prop :=
  x.magnitude < infiniteMagnitude

instance (x : Double) : Decidable x.IsFinite := by
  unfold IsFinite
  infer_instance

/-
  Two doubles are equal when both are numbers, and they have
  the same bits or are zeros of any sign.
-/
def Equal (x y : Double) : Prop :=
  ¬ x.IsNaN ∧ ¬ y.IsNaN ∧
    (x.bits = y.bits ∨ x.magnitude = 0 ∧ y.magnitude = 0)

instance (x y : Double) : Decidable (x.Equal y) := by
  unfold Equal
  infer_instance

/- The double with a sign and the bits of a magnitude. -/
def ofMagnitude
    (negative : Bool)
    (m : Nat) : Double where
  bits :=
    UInt64.ofNat (if negative then signBit + m else m)

end Double

end GraphSchema

------------------------------------------------------------
-- Exact Values
------------------------------------------------------------

namespace GraphSchema

namespace Double

/-
  The integer that a power of two is multiplied by in the
  exact value of a finite double.  Normal doubles have one
  more bit than their fraction.
-/
def significand (x : Double) : Nat :=
  if x.magnitude < binade then
    x.magnitude
  else
    binade + x.magnitude % binade

/- The power of two in the exact value of a finite double. -/
def power (x : Double) : Int :=
  if x.magnitude < binade then
    -1074
  else
    (x.magnitude / binade : Nat) - 1075

/- The numerator of the exact magnitude of a finite double. -/
def numerator (x : Double) : Nat :=
  x.significand * Power.two x.power.toNat

/- The denominator of the exact magnitude. -/
def denominator (x : Double) : Nat :=
  Power.two (-x.power).toNat

/-
  The numbers that round to a positive finite double.  They
  reach half the way to each neighbour.  Below the least
  number of a binade the neighbour is nearer by half, except
  for the lowest binades, whose steps are the same.  A half
  way belongs to the double with the even significand.
-/
def roundingInterval (x : Double) : RoundingInterval :=
  let scale := Power.two x.power.toNat
  let below :=
    if x.significand = binade ∧ -1074 < x.power then 1
    else 2
  { lower := (4 * x.significand - below) * scale
    value := 4 * x.significand * scale
    upper := (4 * x.significand + 2) * scale
    denominator := 4 * x.denominator
    closed := x.significand % 2 = 0 }

end Double

end GraphSchema
