/-
  This file defines a supply of generated names.  Every
  name is a numeral of twenty-six digits in an alphabet of
  thirty-two characters.  The supply counts upwards, and it
  passes over the names that are taken.

  Key definitions include:
    * `NameSupply`
    * `NameSupply.nameAt`
    * `NameSupply.avoiding`
    * `NameSupply.fresh`
    * `NameSupply.take`

  Key theorems include:
    * `NameSupply.nameAt_firstFree_notMem`
-/

------------------------------------------------------------
-- Name Characters
------------------------------------------------------------

namespace GraphSchema

namespace NameSupply

/-
  The digits of a generated name, by increasing value.  The
  letters I, L, O and U are left out, since they are easily
  misread.
-/
def alphabet : List Char :=
  "0123456789ABCDEFGHJKMNPQRSTVWXYZ".toList

/- The number of characters of a generated name. -/
def width : Nat :=
  26

/- The character of a digit of value `d`, modulo 32. -/
def digitAt (d : Nat) : Char :=
  alphabet.getD (d % 32) '0'

/-
  The last `k` digits of a number to the base 32, most
  significant digit first.
-/
def lastDigits : Nat → Nat → List Char
| 0, _ => []
| k + 1, n => lastDigits k (n / 32) ++ [digitAt n]

/- A text has exactly the requested number of digits. -/
theorem length_lastDigits :
    ∀ k n : Nat, (lastDigits k n).length = k
| 0, _ => rfl
| k + 1, n => by
    simp [lastDigits, length_lastDigits k (n / 32)]

/- The generated name with number `n`. -/
def nameAt (n : Nat) : String :=
  String.ofList (lastDigits width n)

end NameSupply

end GraphSchema

------------------------------------------------------------
-- Bounded Search
------------------------------------------------------------

namespace GraphSchema

namespace NameSupply

/-
  The first number from `n` on, after at most `fuel` steps,
  whose name is not taken.
-/
def firstFree (taken : List String) : Nat → Nat → Nat
| 0, n => n
| fuel + 1, n =>
    if nameAt n ∈ taken then
      firstFree taken fuel (n + 1)
    else
      n

/- A search never goes back. -/
theorem le_firstFree
    (taken : List String)
    (fuel n : Nat) :
    n ≤ firstFree taken fuel n := by
  induction fuel generalizing n with
  | zero =>
      exact Nat.le_refl n
  | succ fuel ih =>
      rw [firstFree]
      split
      · have hNext := ih (n + 1)
        omega
      · exact Nat.le_refl n

/- A search looks at no more names than its fuel. -/
theorem firstFree_le
    (taken : List String)
    (fuel n : Nat) :
    firstFree taken fuel n ≤ n + fuel := by
  induction fuel generalizing n with
  | zero =>
      exact Nat.le_refl n
  | succ fuel ih =>
      rw [firstFree]
      split
      · have hNext := ih (n + 1)
        omega
      · exact Nat.le_add_right n _

/-
  A search finds a name that is not taken, when one of the
  names within its reach is not taken.
-/
theorem nameAt_firstFree_notMem
    {taken : List String}
    {fuel n k : Nat}
    (hStart : n ≤ k)
    (hReach : k ≤ n + fuel)
    (hFree : nameAt k ∉ taken) :
    nameAt (firstFree taken fuel n) ∉ taken := by
  induction fuel generalizing n with
  | zero =>
      have hEq : k = n := by omega
      subst hEq
      exact hFree
  | succ fuel ih =>
      rw [firstFree]
      by_cases hMem : nameAt n ∈ taken
      · rw [if_pos hMem]
        have hNe : k ≠ n := by
          intro hEq
          subst hEq
          exact hFree hMem
        exact ih (by omega) (by omega)
      · rw [if_neg hMem]
        exact hMem

end NameSupply

end GraphSchema

------------------------------------------------------------
-- Name Supplies
------------------------------------------------------------

namespace GraphSchema

/-
  A supply knows the number that it looks at next, and the
  names that it must not hand out.
-/
structure NameSupply where
  next : Nat
  taken : List String
deriving DecidableEq, Repr

namespace NameSupply

/- The number of the first name that is handed out. -/
def start : Nat :=
  0x018D3F5A7C2E946B1D80F3A65C29E7B4

/-
  The supply that avoids the given texts.  A text of another
  width is no generated name, so that there is no need to
  remember it.
-/
def avoiding (texts : List String) : NameSupply where
  next := start
  taken := texts.filter (fun s => s.length = width)

/- The supply that avoids nothing. -/
def initial : NameSupply :=
  avoiding []

/-
  The next name that is not taken, and the supply that
  remains.  As many steps as there are taken names suffice,
  since the names that are passed over differ, unless the
  numbers come to have more digits than a name.
-/
def fresh (supply : NameSupply) :
    String × NameSupply :=
  let n :=
    firstFree supply.taken supply.taken.length supply.next
  (nameAt n, { supply with next := n + 1 })

/-
  The next `k` names after those of a list in reverse, and
  the supply that remains.
-/
def takeAfter :
    Nat → List String → NameSupply → List String × NameSupply
| 0, names, supply => (names.reverse, supply)
| k + 1, names, supply =>
    let (name, rest) := supply.fresh
    takeAfter k (name :: names) rest

/- The next `k` names, and the supply that remains. -/
def take
    (supply : NameSupply)
    (k : Nat) :
    List String × NameSupply :=
  takeAfter k [] supply

end NameSupply

end GraphSchema
