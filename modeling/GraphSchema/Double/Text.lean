import GraphSchema.Decimal.Layout
import GraphSchema.Double.Basic

/-
  This file defines the two texts of doubles: the one that
  is displayed, and the numeral that stands in documents.
  Both have the fewest digits that tell the double apart
  from all others.

  Key definitions include:
    * `Double.displayLayout`
    * `Double.display`
    * `Double.documentLayout`
    * `Double.numeral?`
-/

------------------------------------------------------------
-- Texts of Doubles
------------------------------------------------------------

namespace GraphSchema

namespace Double

/- The numeral of a finite double in a layout. -/
def finiteNumeral
    (layout : DecimalLayout)
    (x : Double) : Numeral :=
  if x.magnitude = 0 then
    { negative := x.negative
      whole := 0
      fraction := [Digit.zero]
      exponent := none }
  else
    layout.numeral x.negative
      (x.roundingInterval.shortest layout.tie)

/-
  Displayed doubles are positional from 0.0001 to below
  10000000000000000, a positive power of ten has no sign,
  and a tie goes to the larger decimal.
-/
def displayLayout : DecimalLayout where
  firstPositional := -4
  lastPositional := 15
  plusSign := false
  tie := .up

/- The displayed text of a double. -/
def display (x : Double) : String :=
  if x.IsNaN then
    "NaN"
  else if x.IsFinite then
    (x.finiteNumeral displayLayout).text
      displayLayout.plusSign
  else if x.negative then
    "-inf"
  else
    "inf"

/-
  Doubles in documents are positional from 0.00001 to below
  10000000000000000, a power of ten has always a sign, and a
  tie goes to the decimal with the even last digit.
-/
def documentLayout : DecimalLayout where
  firstPositional := -5
  lastPositional := 15
  plusSign := true
  tie := .toEven

/-
  The numeral of a double in a document.  Infinities and
  doubles that are no number have none.
-/
def numeral? (x : Double) : Option Numeral :=
  if x.IsFinite then
    some (x.finiteNumeral documentLayout)
  else
    none

end Double

end GraphSchema
