/-
  This file defines decimal digits and the conversion
  between natural numbers and lists of digits.

  Key definitions include:
    * `Digit`
    * `Digit.zero`
    * `Digit.char`
    * `Digit.ofChar?`
    * `Digit.ofNat`
    * `Digit.number`
    * `Digit.padded`
    * `Digit.takeDigits`
-/

------------------------------------------------------------
-- Digits
------------------------------------------------------------

namespace GraphSchema

/- A decimal digit, most significant first in lists. -/
abbrev Digit :=
  Fin 10

namespace Digit

/- The digit zero. -/
def zero : Digit :=
  ⟨0, by decide⟩

/- The character of a digit. -/
def char (d : Digit) : Char :=
  Char.ofNat (d.val + 48)

/- The digit of an ASCII digit character. -/
def ofChar? (c : Char) : Option Digit :=
  if h : 48 ≤ c.toNat ∧ c.toNat < 58 then
    some ⟨c.toNat - 48, by omega⟩
  else
    none

/- A digit is recovered from its character. -/
theorem ofChar?_char (d : Digit) :
    ofChar? (char d) = some d := by
  revert d
  decide

/- The text of a list of digits. -/
def text (ds : List Digit) : String :=
  String.ofList (ds.map char)

end Digit

end GraphSchema

------------------------------------------------------------
-- Numbers and Digits
------------------------------------------------------------

namespace GraphSchema

namespace Digit

/- The digits of a number, without leading zeros. -/
def ofNat (n : Nat) : List Digit :=
  if n < 10 then
    [Fin.ofNat 10 n]
  else
    ofNat (n / 10) ++ [Fin.ofNat 10 n]
termination_by n
decreasing_by omega

/- The number written by a list of digits. -/
def number (ds : List Digit) : Nat :=
  ds.foldl (fun n d => 10 * n + d.val) 0

/- The number of a list that ends with `d`. -/
theorem number_append_singleton
    (ds : List Digit)
    (d : Digit) :
    number (ds ++ [d]) = 10 * number ds + d.val := by
  simp [number, List.foldl_append]

/- A number is recovered from its digits. -/
theorem number_ofNat (n : Nat) :
    number (ofNat n) = n := by
  induction n using Nat.strongRecOn with
  | _ n ih =>
      unfold ofNat
      split
      · next h =>
          simp [number, Fin.ofNat, Nat.mod_eq_of_lt h]
      · next h =>
          rw [number_append_singleton, ih (n / 10) (by omega)]
          simp only [Fin.ofNat]
          omega

/- The digits of a number, filled up with zeros in front. -/
def padded
    (width : Nat)
    (n : Nat) :
    List Digit :=
  let ds := ofNat n
  List.replicate (width - ds.length) zero ++ ds

end Digit

end GraphSchema

------------------------------------------------------------
-- Reading Digits
------------------------------------------------------------

namespace GraphSchema

namespace Digit

/-
  The digits at the front of a text, and the text from the
  first character that is no digit.
-/
def takeDigits : List Char → List Digit × List Char
| [] => ([], [])
| c :: cs =>
    match ofChar? c with
    | none => ([], c :: cs)
    | some d =>
        let (ds, rest) := takeDigits cs
        (d :: ds, rest)

/- What follows the digits is never longer than the text. -/
theorem length_takeDigits_le :
    ∀ cs : List Char,
      (takeDigits cs).2.length ≤ cs.length
| [] => by
    simp [takeDigits]
| c :: cs => by
    unfold takeDigits
    cases ofChar? c with
    | none =>
        simp
    | some d =>
        have hRest := length_takeDigits_le cs
        simp only [List.length_cons]
        omega

end Digit

end GraphSchema
