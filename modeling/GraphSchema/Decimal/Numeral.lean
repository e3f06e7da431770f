import GraphSchema.Decimal.Digits

/-
  This file defines written decimal numbers: a sign, a
  whole part, digits after a point and a power of ten.  A
  numeral keeps the digits that were written, and not only
  the number that they denote.

  Key definitions include:
    * `Numeral`
    * `Numeral.ofInt`
    * `Numeral.toInt?`
    * `Numeral.text`
    * `Numeral.scan`

  Key theorems include:
    * `Numeral.length_lt_of_scan`
-/

------------------------------------------------------------
-- Numerals
------------------------------------------------------------

namespace GraphSchema

/-
  A numeral.  No digits after the point means that no point
  is written.
-/
structure Numeral where
  negative : Bool
  whole : Nat
  fraction : List Digit
  exponent : Option Int
deriving DecidableEq

namespace Numeral

/- The numeral of an integer. -/
def ofInt (i : Int) : Numeral where
  negative := i < 0
  whole := i.natAbs
  fraction := []
  exponent := none

/-
  The integer of a numeral that has neither a point nor a
  power of ten.  The numeral `-0` is not an integer, since
  an integer has no negative zero.
-/
def toInt? (n : Numeral) : Option Int :=
  match n.fraction, n.exponent with
  | [], none =>
      if n.negative then
        if n.whole = 0 then none else some (-n.whole)
      else
        some n.whole
  | _, _ => none

/- An integer is recovered from its numeral. -/
theorem toInt?_ofInt (i : Int) :
    (ofInt i).toInt? = some i := by
  by_cases h : i < 0
  · have hWhole : i.natAbs ≠ 0 := by
      omega
    simp only [ofInt, toInt?, decide_eq_true h, if_true,
      hWhole, if_false, Option.some.injEq]
    omega
  · simp only [ofInt, toInt?, decide_eq_false h,
      Bool.false_eq_true, if_false, Option.some.injEq]
    omega

end Numeral

end GraphSchema

------------------------------------------------------------
-- Writing Numerals
------------------------------------------------------------

namespace GraphSchema

namespace Numeral

/-
  The text of a power of ten.  A negative power always has
  its sign, and a positive one has a sign on request.
-/
def exponentText
    (plusSign : Bool)
    (e : Int) : String :=
  let sign :=
    if e < 0 then "-"
    else if plusSign then "+"
    else ""
  "e" ++ sign ++ Digit.text (Digit.ofNat e.natAbs)

/- The text of a numeral. -/
def text
    (plusSign : Bool)
    (n : Numeral) : String :=
  let sign := if n.negative then "-" else ""
  let fraction :=
    match n.fraction with
    | [] => ""
    | ds => "." ++ Digit.text ds
  let exponent :=
    match n.exponent with
    | none => ""
    | some e => exponentText plusSign e
  sign ++ Digit.text (Digit.ofNat n.whole) ++ fraction
    ++ exponent

end Numeral

end GraphSchema

------------------------------------------------------------
-- Reading Numerals
------------------------------------------------------------

namespace GraphSchema

namespace Numeral

/- A minus sign at the front of a text, if there is one. -/
def scanSign : List Char → Bool × List Char
| '-' :: cs => (true, cs)
| cs => (false, cs)

/-
  The whole part at the front of a text.  It is a single
  zero, or it starts with another digit.
-/
def scanWhole
    (cs : List Char) :
    Option (Nat × List Char) :=
  match cs with
  | '0' :: rest => some (0, rest)
  | _ =>
      match Digit.takeDigits cs with
      | ([], _) => none
      | (ds, rest) => some (Digit.number ds, rest)

/-
  The digits after a point at the front of a text.  A point
  has at least one digit behind it.
-/
def scanFraction :
    List Char → Option (List Digit × List Char)
| '.' :: cs =>
    match Digit.takeDigits cs with
    | ([], _) => none
    | (ds, rest) => some (ds, rest)
| cs => some ([], cs)

/- The digits of a power of ten, after its sign. -/
def scanPower
    (negative : Bool)
    (cs : List Char) :
    Option (Option Int × List Char) :=
  match Digit.takeDigits cs with
  | ([], _) => none
  | (ds, rest) =>
      let e : Int := Digit.number ds
      some (some (if negative then -e else e), rest)

/-
  The power of ten at the front of a text, marked by either
  case of the letter and an optional sign.
-/
def scanExponent
    (cs : List Char) :
    Option (Option Int × List Char) :=
  match cs with
  | [] => some (none, cs)
  | c :: rest =>
      if c = 'e' ∨ c = 'E' then
        match rest with
        | '-' :: ds => scanPower true ds
        | '+' :: ds => scanPower false ds
        | ds => scanPower false ds
      else
        some (none, cs)

/-
  The numeral at the front of a text, as long as it can be,
  and the text behind it.
-/
def scan
    (cs : List Char) :
    Option (Numeral × List Char) := do
  let (negative, cs) := scanSign cs
  let (whole, cs) ← scanWhole cs
  let (fraction, cs) ← scanFraction cs
  let (exponent, cs) ← scanExponent cs
  return (⟨negative, whole, fraction, exponent⟩, cs)

end Numeral

end GraphSchema

------------------------------------------------------------
-- Progress of Reading
------------------------------------------------------------

namespace GraphSchema

namespace Numeral

private theorem length_scanSign_le (cs : List Char) :
    (scanSign cs).2.length ≤ cs.length := by
  unfold scanSign
  split <;> simp

private theorem length_takeDigits_lt
    {cs rest : List Char}
    {d : Digit}
    {ds : List Digit}
    (h : Digit.takeDigits cs = (d :: ds, rest)) :
    rest.length < cs.length := by
  cases cs with
  | nil =>
      simp [Digit.takeDigits] at h
  | cons c cs =>
      have hLe := Digit.length_takeDigits_le cs
      unfold Digit.takeDigits at h
      cases hDigit : Digit.ofChar? c with
      | none =>
          simp [hDigit] at h
      | some e =>
          simp only [hDigit, Prod.mk.injEq] at h
          rw [← h.2]
          simp only [List.length_cons]
          omega

private theorem length_lt_of_scanWhole
    {cs rest : List Char}
    {n : Nat}
    (h : scanWhole cs = some (n, rest)) :
    rest.length < cs.length := by
  unfold scanWhole at h
  split at h
  · next rest' =>
      simp only [Option.some.injEq, Prod.mk.injEq] at h
      simp [← h.2]
  · split at h
    · simp at h
    · next ds rest' hNonempty hTake =>
        simp only [Option.some.injEq, Prod.mk.injEq] at h
        cases ds with
        | nil =>
            exact (hNonempty rfl).elim
        | cons d ds =>
            rw [← h.2]
            exact length_takeDigits_lt hTake

private theorem length_le_of_scanFraction
    {cs rest : List Char}
    {ds : List Digit}
    (h : scanFraction cs = some (ds, rest)) :
    rest.length ≤ cs.length := by
  unfold scanFraction at h
  split at h
  · next tail =>
      have hLe := Digit.length_takeDigits_le tail
      split at h
      · simp at h
      · next ds' rest' _ hTake =>
          simp only [Option.some.injEq, Prod.mk.injEq] at h
          rw [hTake] at hLe
          simp only at hLe
          simp only [← h.2, List.length_cons]
          omega
  · simp only [Option.some.injEq, Prod.mk.injEq] at h
    simp [← h.2]

private theorem length_le_of_scanPower
    {negative : Bool}
    {cs rest : List Char}
    {e : Option Int}
    (h : scanPower negative cs = some (e, rest)) :
    rest.length ≤ cs.length := by
  have hLe := Digit.length_takeDigits_le cs
  unfold scanPower at h
  split at h
  · simp at h
  · next ds rest' _ hTake =>
      simp only [Option.some.injEq, Prod.mk.injEq] at h
      rw [hTake] at hLe
      rw [← h.2]
      exact hLe

private theorem length_le_of_scanExponent
    {cs rest : List Char}
    {e : Option Int}
    (h : scanExponent cs = some (e, rest)) :
    rest.length ≤ cs.length := by
  unfold scanExponent at h
  split at h
  · simp only [Option.some.injEq, Prod.mk.injEq] at h
    simp [← h.2]
  · split at h
    · split at h <;>
        · have hLe := length_le_of_scanPower h
          simp only [List.length_cons] at hLe ⊢
          omega
    · simp only [Option.some.injEq, Prod.mk.injEq] at h
      simp [← h.2]

/- A numeral takes at least one character of the text. -/
theorem length_lt_of_scan
    {cs rest : List Char}
    {n : Numeral}
    (h : scan cs = some (n, rest)) :
    rest.length < cs.length := by
  have hSign := length_scanSign_le cs
  unfold scan at h
  simp only [Option.bind_eq_bind, Option.bind_eq_some_iff,
    Option.pure_def, Option.some.injEq, Prod.mk.injEq,
    Prod.exists] at h
  obtain ⟨whole, cs₁, hWhole, ds, cs₂, hFraction, e, cs₃,
    hExponent, _, hRest⟩ := h
  have h₁ := length_lt_of_scanWhole hWhole
  have h₂ := length_le_of_scanFraction hFraction
  have h₃ := length_le_of_scanExponent hExponent
  subst hRest
  omega

end Numeral

end GraphSchema
