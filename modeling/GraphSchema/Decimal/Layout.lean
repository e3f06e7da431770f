import GraphSchema.Decimal.Numeral
import GraphSchema.Decimal.Shortest

/-
  This file defines how shortest decimals are laid out as
  numerals, in positional or in exponential form.

  Key definitions include:
    * `DecimalLayout`
    * `DecimalLayout.positional`
    * `DecimalLayout.exponential`
    * `DecimalLayout.numeral`
-/

------------------------------------------------------------
-- Layout of Decimals
------------------------------------------------------------

namespace GraphSchema

/-
  How shortest decimals are laid out.  The power of ten of
  the leading digit decides between positional and
  exponential form: from `firstPositional` to
  `lastPositional` no power of ten is written.
-/
structure DecimalLayout where
  firstPositional : Int
  lastPositional : Int
  plusSign : Bool
  tie : TieRule
deriving DecidableEq

namespace DecimalLayout

/-
  Positional form, with at least one digit on both sides of
  the point.  Zeros fill the gap between the digits and the
  point, on whichever side of the point it is.
-/
def positional
    (negative : Bool)
    (s : Scientific) : Numeral :=
  let n := s.point.toNat
  let before :=
    List.replicate (n - s.digits.length) Digit.zero
  let behind :=
    List.replicate (-s.point).toNat Digit.zero
  { negative := negative
    whole := Digit.number (s.digits.take n ++ before)
    fraction :=
      match behind ++ s.digits.drop n with
      | [] => [Digit.zero]
      | ds => ds
    exponent := none }

/-
  Exponential form: one digit before the point, and no point
  when that is the only digit.
-/
def exponential
    (negative : Bool)
    (s : Scientific) : Numeral where
  negative := negative
  whole := Digit.number (s.digits.take 1)
  fraction := s.digits.drop 1
  exponent := some (s.point - 1)

/- The numeral of a number in scientific form. -/
def numeral
    (layout : DecimalLayout)
    (negative : Bool)
    (s : Scientific) : Numeral :=
  if layout.firstPositional ≤ s.point - 1 ∧
      s.point - 1 ≤ layout.lastPositional then
    positional negative s
  else
    exponential negative s

end DecimalLayout

end GraphSchema
