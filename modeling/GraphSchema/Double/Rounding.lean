import GraphSchema.Double.Basic

/-
  This file defines rounding to the nearest double, and the
  products and quotients that are rounded in this way.

  Key definitions include:
    * `Double.roundHalfEven`
    * `Double.nearestBits`
    * `Double.nearest`
    * `Double.product`
    * `Double.quotient`
-/

------------------------------------------------------------
-- Rounding
------------------------------------------------------------

namespace GraphSchema

namespace Double

/-
  The integer nearest to a fraction, and the even one of two
  that are equally near.
-/
def roundHalfEven
    (num den : Nat) : Nat :=
  let quotient := num / den
  let twice := 2 * (num % den)
  if den < twice ∨ twice = den ∧ quotient % 2 = 1 then
    quotient + 1
  else
    quotient

/- The greatest power of two that is at most a fraction. -/
def floorLog2
    (num den : Nat) : Int :=
  let estimate : Int := num.log2 - den.log2
  if den * Power.two estimate.toNat ≤
      num * Power.two (-estimate).toNat then
    estimate
  else
    estimate - 1

/-
  The bits of the magnitude nearest to a fraction.  Every
  step of the bits is a step to the next double, across the
  borders of binades and up to infinity, so that a rounded
  significand that overflows needs no treatment of its own.
-/
def nearestBits
    (num den : Nat) : Nat :=
  if num = 0 then
    0
  else
    let power := max (floorLog2 num den - 52) (-1074)
    let significand :=
      roundHalfEven
        (num * Power.two (-power).toNat)
        (den * Power.two power.toNat)
    min infiniteMagnitude
      ((power + 1074).toNat * binade + significand)

/- The positive double nearest to a fraction. -/
def nearest
    (num den : Nat) : Double :=
  ofMagnitude false (nearestBits num den)

/- The product of two magnitudes, rounded. -/
def product (x y : Double) : Double :=
  nearest
    (x.numerator * y.numerator)
    (x.denominator * y.denominator)

/- The quotient of two magnitudes, rounded. -/
def quotient (x y : Double) : Double :=
  nearest
    (x.numerator * y.denominator)
    (x.denominator * y.numerator)

/- The double nearest to a power of ten. -/
def powerOfTen (k : Nat) : Double :=
  nearest (Power.ten k) 1

end Double

end GraphSchema
