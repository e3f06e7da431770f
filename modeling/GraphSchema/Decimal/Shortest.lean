import GraphSchema.Decimal.Digits
import GraphSchema.Decimal.Power

/-
  This file defines the shortest decimal numbers: among the
  decimals that lie in the rounding interval of a binary
  number, those with the fewest digits, and of those the
  nearest to the number itself.  All arithmetic is exact.

  Key definitions include:
    * `RoundingInterval`
    * `RoundingInterval.Holds`
    * `TieRule`
    * `RoundingInterval.shortest`
    * `Scientific`
-/

------------------------------------------------------------
-- Rounding Intervals
------------------------------------------------------------

namespace GraphSchema

/-
  A positive number and the numbers around it that round to
  it.  The number and the two ends are the fractions with
  the three numerators over one denominator.  The ends
  belong to a closed interval.
-/
structure RoundingInterval where
  lower : Nat
  value : Nat
  upper : Nat
  denominator : Nat
  closed : Bool
deriving DecidableEq

/-
  Which of two decimals is taken that are equally near: the
  larger one, or the one whose last digit is even.
-/
inductive TieRule where
| up
| toEven
deriving DecidableEq

namespace RoundingInterval

/-
  The decimal `c * 10 ^ k` lies in the interval.  A positive
  power of ten scales the decimal, and a negative one scales
  the ends of the interval instead.
-/
def Holds
    (I : RoundingInterval)
    (k : Int)
    (c : Nat) : Prop :=
  let point := c * Power.ten k.toNat * I.denominator
  let low := I.lower * Power.ten (-k).toNat
  let high := I.upper * Power.ten (-k).toNat
  if I.closed then
    low ≤ point ∧ point ≤ high
  else
    low < point ∧ point < high

instance
    (I : RoundingInterval)
    (k : Int)
    (c : Nat) :
    Decidable (I.Holds k c) := by
  unfold Holds
  infer_instance

/-
  The multiple of `10 ^ k` that lies in the interval and is
  nearest to its number, if there is one.  Only the two
  neighbours of the number have to be examined.
-/
def nearestOnGrid
    (I : RoundingInterval)
    (tie : TieRule)
    (k : Int) : Option Nat :=
  let number := I.value * Power.ten (-k).toNat
  let unit := Power.ten k.toNat * I.denominator
  let below := number / unit
  let above := below + 1
  if I.Holds k below then
    if I.Holds k above then
      let twice := 2 * (number % unit)
      if twice < unit then
        some below
      else if unit < twice then
        some above
      else
        match tie with
        | .up => some above
        | .toEven =>
            some (if below % 2 = 0 then below else above)
    else
      some below
  else if I.Holds k above then
    some above
  else
    none

/-
  The power of ten of the number's leading digit.
-/
def leadingPower (I : RoundingInterval) : Int :=
  if I.denominator ≤ I.value then
    (Digit.ofNat (I.value / I.denominator)).length - 1
  else
    -(Digit.ofNat ((I.denominator - 1) / I.value)).length

end RoundingInterval

end GraphSchema

------------------------------------------------------------
-- Scientific Form
------------------------------------------------------------

namespace GraphSchema

/-
  The digits of a positive number after "0." and the power
  of ten that this fraction is multiplied by.
-/
structure Scientific where
  digits : List Digit
  point : Int
deriving DecidableEq

namespace Scientific

/- The scientific form of `c * 10 ^ k`. -/
def ofCoefficient
    (c : Nat)
    (k : Int) : Scientific :=
  let ds := Digit.ofNat c
  { digits :=
      (ds.reverse.dropWhile
        (fun d => d.val == 0)).reverse
    point := ds.length + k }

end Scientific

namespace RoundingInterval

/-
  The shortest decimal of an interval.  Grids of one, two,
  up to seventeen digits are tried in this order.  Seventeen
  digits tell all doubles apart, so the last grid has a
  decimal in the interval of every double.
-/
def shortest
    (I : RoundingInterval)
    (tie : TieRule) : Scientific :=
  let top := I.leadingPower
  let found :=
    (List.range 17).findSome? (fun (i : Nat) =>
      (I.nearestOnGrid tie (top - i)).map (fun c =>
        Scientific.ofCoefficient c (top - i)))
  found.getD ⟨[Digit.zero], 1⟩

end RoundingInterval

end GraphSchema
