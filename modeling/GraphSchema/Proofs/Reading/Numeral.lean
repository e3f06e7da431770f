import GraphSchema.Decimal.Numeral

/-
  This file shows that written numbers are read back: a run
  of digits, a number filled up with zeros, and a numeral
  with all of its digits.  What follows must not go on with
  the number.

  Key definitions include:
    * `Digit.EndsBefore`
    * `Numeral.EndsBefore`

  Key theorems include:
    * `Digit.takeDigits_append`
    * `Digit.number_padded`
    * `Numeral.scan_text`
-/

------------------------------------------------------------
-- Runs of Digits
------------------------------------------------------------

namespace GraphSchema

namespace Digit

/- A run of digits ends before a text. -/
def EndsBefore (rest : List Char) : Prop :=
  ∀ c ∈ rest.head?, ofChar? c = none

theorem endsBefore_cons
    {c : Char}
    {rest : List Char}
    (h : ofChar? c = none) :
    EndsBefore (c :: rest) := by
  intro d hd
  rw [List.head?_cons, Option.mem_some_iff] at hd
  rw [← hd]
  exact h

theorem endsBefore_nil : EndsBefore [] := by
  intro c hc
  cases hc

theorem char_ne
    {c : Char}
    (hc : ofChar? c = none)
    (d : Digit) : d.char ≠ c := by
  intro hEq
  rw [← hEq, ofChar?_char] at hc
  cases hc

/- Only zero is written as a zero. -/
theorem char_ne_zero :
    ∀ d : Digit, d ≠ zero → d.char ≠ '0' := by
  decide

/- A run of digits is read as far as it goes. -/
theorem takeDigits_append
    (ds : List Digit)
    {rest : List Char}
    (hRest : EndsBefore rest) :
    takeDigits (ds.map char ++ rest) = (ds, rest) := by
  induction ds with
  | nil =>
      cases rest with
      | nil =>
          rfl
      | cons c rest =>
          have hNone : ofChar? c = none := hRest c rfl
          simp [takeDigits, hNone]
  | cons d ds ih =>
      simp [takeDigits, ofChar?_char, ih]

/- A run of digits that is a whole text is read. -/
theorem takeDigits_map_char (ds : List Digit) :
    takeDigits (ds.map char) = (ds, []) := by
  simpa using takeDigits_append ds endsBefore_nil

theorem ofNat_ne_nil (n : Nat) : ofNat n ≠ [] := by
  unfold ofNat
  split <;> simp

theorem exists_ofNat_eq_cons (n : Nat) :
    ∃ d ds, ofNat n = d :: ds :=
  List.exists_cons_of_ne_nil (ofNat_ne_nil n)

theorem head_ofNat
    {n : Nat}
    (hn : n ≠ 0) :
    ∃ d ds, ofNat n = d :: ds ∧ d ≠ zero := by
  induction n using Nat.strongRecOn with
  | _ n ih =>
      unfold ofNat
      split
      · next hLt =>
          refine ⟨_, [], rfl, ?_⟩
          intro hZero
          have hVal := congrArg Fin.val hZero
          simp only [Fin.ofNat, zero] at hVal
          omega
      · next hGe =>
          rcases ih (n / 10) (by omega) (by omega) with
            ⟨d, ds, hDigits, hd⟩
          exact ⟨d, ds ++ [Fin.ofNat 10 n], by simp [hDigits],
            hd⟩

/- Leading zeros do not change a number. -/
theorem number_replicate_append
    (k : Nat)
    (ds : List Digit) :
    number (List.replicate k zero ++ ds) = number ds := by
  induction k with
  | zero =>
      simp
  | succ k ih =>
      rw [← ih]
      simp [number, List.replicate_succ, zero]

/- A number is recovered from its filled up digits. -/
theorem number_padded (width n : Nat) :
    number (padded width n) = n := by
  rw [padded, number_replicate_append, number_ofNat]

/- A number below a power of ten has no more digits. -/
theorem length_ofNat_le
    {k n : Nat}
    (hn : n < Nat.pow 10 (k + 1)) :
    (ofNat n).length ≤ k + 1 := by
  induction k generalizing n with
  | zero =>
      have hLt : n < 10 := by simpa using hn
      rw [ofNat, if_pos hLt]
      simp
  | succ k ih =>
      unfold ofNat
      split
      · simp
      · have hDiv : n / 10 < Nat.pow 10 (k + 1) := by
          apply Nat.div_lt_of_lt_mul
          simpa [Nat.pow_succ, Nat.mul_comm] using hn
        simpa using ih hDiv

/- Filled up digits have the required number, if they fit. -/
theorem length_padded
    {k n : Nat}
    (hn : n < Nat.pow 10 (k + 1)) :
    (padded (k + 1) n).length = k + 1 := by
  have hLe := length_ofNat_le hn
  simp only [padded, List.length_append,
    List.length_replicate]
  omega

end Digit

end GraphSchema

------------------------------------------------------------
-- Numerals
------------------------------------------------------------

namespace GraphSchema

namespace Numeral

/-
  A numeral ends before a text: neither further digits nor a
  point nor a power of ten follow.
-/
def EndsBefore (rest : List Char) : Prop :=
  ∀ c ∈ rest.head?,
    Digit.ofChar? c = none ∧ c ≠ '.' ∧ c ≠ 'e' ∧ c ≠ 'E'

theorem EndsBefore.digits
    {rest : List Char}
    (h : EndsBefore rest) : Digit.EndsBefore rest := by
  intro c hc
  exact (h c hc).1

theorem scanSign_digits
    {ds : List Digit}
    (hds : ds ≠ [])
    (rest : List Char) :
    scanSign (ds.map Digit.char ++ rest) =
      (false, ds.map Digit.char ++ rest) := by
  cases ds with
  | nil =>
      exact absurd rfl hds
  | cons d ds =>
      have hChar : d.char ≠ '-' :=
        Digit.char_ne (by decide) d
      simp [scanSign, hChar]

theorem scanWhole_ofNat
    (n : Nat)
    {rest : List Char}
    (hRest : Digit.EndsBefore rest) :
    scanWhole ((Digit.ofNat n).map Digit.char ++ rest) =
      some (n, rest) := by
  by_cases hn : n = 0
  · subst hn
    rw [Digit.ofNat, if_pos (by decide)]
    rfl
  · rcases Digit.head_ofNat hn with ⟨d, ds, hDigits, hd⟩
    have hTake := Digit.takeDigits_append (Digit.ofNat n) hRest
    have hNumber := Digit.number_ofNat n
    rw [hDigits] at hTake hNumber ⊢
    rw [List.map_cons, List.cons_append] at hTake ⊢
    unfold scanWhole
    split
    · next hHead =>
        exact absurd (List.cons.inj hHead).1
          (Digit.char_ne_zero d hd)
    · rw [hTake]
      simp only [hNumber]

/- The point of a numeral with the digits behind it. -/
def fractionChars : List Digit → List Char
| [] => []
| ds => '.' :: ds.map Digit.char

/- The digits after a point are read back. -/
theorem scanFraction_fractionChars
    (ds : List Digit)
    {rest : List Char}
    (hDigits : Digit.EndsBefore rest)
    (hPoint : rest.head? ≠ some '.') :
    scanFraction (fractionChars ds ++ rest) =
      some (ds, rest) := by
  cases ds with
  | nil =>
      cases rest with
      | nil =>
          rfl
      | cons c rest =>
          have hNe : c ≠ '.' := by
            simpa using hPoint
          simp [fractionChars, scanFraction, hNe]
  | cons d ds =>
      have hTake :=
        Digit.takeDigits_append (d :: ds) hDigits
      simp only [fractionChars, List.cons_append,
        scanFraction]
      rw [hTake]

/- A power of ten is read back from its digits. -/
theorem scanPower_ofNat
    (negative : Bool)
    (n : Nat)
    {rest : List Char}
    (hRest : Digit.EndsBefore rest) :
    scanPower negative
        ((Digit.ofNat n).map Digit.char ++ rest) =
      some (some (if negative then -(n : Int) else n),
        rest) := by
  have hTake := Digit.takeDigits_append (Digit.ofNat n) hRest
  have hNumber := Digit.number_ofNat n
  unfold scanPower
  rw [hTake]
  rcases Digit.exists_ofNat_eq_cons n with ⟨d, ds, hDigits⟩
  rw [hDigits] at hNumber ⊢
  simp only [hNumber]

/- The power of ten of a numeral, if it has one. -/
def powerChars
    (plusSign : Bool) : Option Int → List Char
| none => []
| some e => (exponentText plusSign e).toList

/- A power of ten is read back, with or without a sign. -/
theorem scanExponent_powerChars
    (plusSign : Bool)
    (exponent : Option Int)
    {rest : List Char}
    (hRest : EndsBefore rest) :
    scanExponent (powerChars plusSign exponent ++ rest) =
      some (exponent, rest) := by
  cases exponent with
  | none =>
      cases rest with
      | nil =>
          rfl
      | cons c rest =>
          rcases hRest c rfl with ⟨_, _, hLower, hUpper⟩
          simp [powerChars, scanExponent, hLower, hUpper]
  | some e =>
      have hPower :=
        fun negative =>
          scanPower_ofNat negative e.natAbs hRest.digits
      by_cases he : e < 0
      · have hValue : -(e.natAbs : Int) = e := by
          omega
        have hScan :
            scanExponent
                (powerChars plusSign (some e) ++ rest) =
              some (some (-(e.natAbs : Int)), rest) := by
          simp [powerChars, exponentText, he, Digit.text,
            scanExponent, hPower]
        rw [hScan, hValue]
      · have hValue : (e.natAbs : Int) = e := by
          omega
        cases plusSign with
        | true =>
            simp [powerChars, exponentText, he, Digit.text,
              scanExponent, hPower, hValue]
        | false =>
            rcases Digit.exists_ofNat_eq_cons e.natAbs with
              ⟨d, ds, hDigits⟩
            have hMinus : d.char ≠ '-' :=
              Digit.char_ne (by decide) d
            have hPlus : d.char ≠ '+' :=
              Digit.char_ne (by decide) d
            have hPower := hPower false
            rw [hDigits, List.map_cons, List.cons_append]
              at hPower
            simp [powerChars, exponentText, he,
              Digit.text, scanExponent, hDigits, hMinus,
              hPlus, hPower, hValue]

/- The characters of a numeral, part by part. -/
theorem toList_text
    (plusSign : Bool)
    (n : Numeral) :
    (n.text plusSign).toList =
      (if n.negative then ['-'] else []) ++
        ((Digit.ofNat n.whole).map Digit.char ++
          (fractionChars n.fraction ++
            powerChars plusSign n.exponent)) := by
  rcases n with ⟨negative, whole, fraction, exponent⟩
  cases negative <;> cases fraction <;> cases exponent <;>
    simp [text, Digit.text, fractionChars, powerChars]

/- A numeral starts with a minus sign or with a digit. -/
theorem exists_toList_text_eq_cons
    (plusSign : Bool)
    (n : Numeral) :
    ∃ c cs,
      (n.text plusSign).toList = c :: cs ∧
        (c = '-' ∨ ∃ d : Digit, c = d.char) := by
  rw [toList_text]
  by_cases hNegative : n.negative = true
  · rw [if_pos hNegative]
    exact ⟨'-', _, rfl, .inl rfl⟩
  · rw [if_neg hNegative]
    rcases Digit.exists_ofNat_eq_cons n.whole with
      ⟨d, ds, hDigits⟩
    rw [hDigits]
    exact ⟨d.char, _, rfl, .inr ⟨d, rfl⟩⟩

/-
  A numeral is read back with all of its digits, if it ends
  before what follows.
-/
theorem scan_text
    (plusSign : Bool)
    (n : Numeral)
    {rest : List Char}
    (hRest : EndsBefore rest) :
    scan ((n.text plusSign).toList ++ rest) =
      some (n, rest) := by
  rcases n with ⟨negative, whole, fraction, exponent⟩
  have hPower :
      ∀ c ∈ (powerChars plusSign exponent ++ rest).head?,
        Digit.ofChar? c = none ∧ c ≠ '.' := by
    cases exponent with
    | none =>
        intro c hc
        rcases hRest c hc with ⟨hDigit, hPoint, _⟩
        exact ⟨hDigit, hPoint⟩
    | some e =>
        intro c hc
        have hLetter : c = 'e' := by
          simpa [powerChars, exponentText, eq_comm] using hc
        rw [hLetter]
        decide
  have hFraction :
      Digit.EndsBefore
        (fractionChars fraction ++
          (powerChars plusSign exponent ++ rest)) := by
    cases fraction with
    | nil =>
        intro c hc
        exact (hPower c hc).1
    | cons d ds =>
        exact Digit.endsBefore_cons (by decide)
  have hSign :
      scanSign
          ((if negative then ['-'] else []) ++
            ((Digit.ofNat whole).map Digit.char ++
              (fractionChars fraction ++
                (powerChars plusSign exponent ++ rest)))) =
        (negative,
          (Digit.ofNat whole).map Digit.char ++
            (fractionChars fraction ++
              (powerChars plusSign exponent ++ rest))) := by
    cases negative with
    | true =>
        rfl
    | false =>
        exact scanSign_digits (Digit.ofNat_ne_nil whole) _
  rw [toList_text]
  simp only [List.append_assoc]
  unfold scan
  rw [hSign]
  simp only [scanWhole_ofNat whole hFraction,
    Option.bind_eq_bind, Option.bind_some]
  rw [scanFraction_fractionChars fraction
    (fun c hc => (hPower c hc).1)
    (fun hHead => (hPower '.' hHead).2 rfl)]
  simp [scanExponent_powerChars plusSign exponent hRest]

end Numeral

end GraphSchema
