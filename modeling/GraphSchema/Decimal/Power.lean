/-
  This file defines the powers of the two bases that binary
  and decimal numbers are written to.

  Key definitions include:
    * `Power.two`
    * `Power.ten`
-/

------------------------------------------------------------
-- Powers
------------------------------------------------------------

namespace GraphSchema

namespace Power

/- A power of two. -/
def two (k : Nat) : Nat :=
  Nat.pow 2 k

/- A power of ten. -/
def ten (k : Nat) : Nat :=
  Nat.pow 10 k

/- The next power of ten. -/
theorem ten_succ (k : Nat) :
    ten (k + 1) = ten k * 10 :=
  rfl

end Power

end GraphSchema
