import GraphSchema.Decimal.Numeral
import GraphSchema.Double.Rounding

/-
  This file defines the double that a numeral denotes.

  Key definitions include:
    * `Double.LeadingDigits`
    * `Double.scale`
    * `Double.ofNumeral?`
-/

------------------------------------------------------------
-- Doubles of Numerals
------------------------------------------------------------

namespace GraphSchema

namespace Double

/- The least integer that has more than sixty-four bits. -/
def wordLimit : Nat :=
  0x10000000000000000

/-
  The leading digits of a numeral as an integer of sixty
  four bits, and the power of ten that goes with it.
-/
structure LeadingDigits where
  number : Nat
  power : Int

namespace LeadingDigits

/-
  Append digits before the point while the number fits into
  sixty-four bits.  Each further digit counts as a zero.
-/
def appendWhole
    (n : Nat) :
    List Digit → LeadingDigits
| [] => ⟨n, 0⟩
| d :: ds =>
    if 10 * n + d.val < wordLimit then
      appendWhole (10 * n + d.val) ds
    else
      ⟨n, (d :: ds).length⟩

/-
  Append digits after the point while the number fits into
  sixty-four bits.  All further digits are dropped.
-/
def appendFraction
    (n : Nat)
    (power : Int) :
    List Digit → LeadingDigits
| [] => ⟨n, power⟩
| d :: ds =>
    if 10 * n + d.val < wordLimit then
      appendFraction (10 * n + d.val) (power - 1) ds
    else
      ⟨n, power⟩

/- The leading digits of a numeral. -/
def ofNumeral (n : Numeral) : LeadingDigits :=
  let whole := appendWhole 0 (Digit.ofNat n.whole)
  let all :=
    appendFraction whole.number whole.power n.fraction
  ⟨all.number, all.power + n.exponent.getD 0⟩

end LeadingDigits

/-
  Scale a magnitude by a power of ten.  Powers up to 308 are
  doubles and take one step.  A greater power is out of
  range, unless the number is zero, and a smaller power is
  taken in several steps until nothing is left.
-/
def scale
    (x : Double)
    (power : Int) : Option Double :=
  if x.magnitude = 0 then
    some x
  else if 308 < power then
    none
  else if 0 ≤ power then
    some (x.product (powerOfTen power.toNat))
  else if -308 ≤ power then
    some (x.quotient (powerOfTen (-power).toNat))
  else
    (x.quotient (powerOfTen 308)).scale (power + 308)
termination_by (-power).toNat
decreasing_by omega

/-
  The double of a numeral, which has to be finite.  The
  leading digits are rounded first and scaled after that, so
  that a numeral with very many digits may miss the nearest
  double by a step.
-/
def ofNumeral? (n : Numeral) : Option Double := do
  let leading := LeadingDigits.ofNumeral n
  let x ← (nearest leading.number 1).scale leading.power
  if x.IsFinite then
    return ofMagnitude n.negative x.magnitude
  else
    none

end Double

end GraphSchema
