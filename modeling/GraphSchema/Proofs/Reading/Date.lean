import GraphSchema.Calendar.DateText
import GraphSchema.Decimal.Power
import GraphSchema.Proofs.Reading.Numeral

/-
  This file shows what dates are read from their exact
  texts: years of any sign and width, fractions of a second
  with none, three, six or nine digits, and leap seconds,
  which are shown as second 60 if they follow second 59.
  All others are shown as the next second, so that the date
  which is read is the carried one.

  Key theorems include:
    * `DateTime.readYear_yearText`
    * `DateTime.readFraction_exactFraction`
    * `DateTime.textWith_carried`
    * `DateTime.readFields_textWith`
    * `DateTime.ofText?_exactText`
-/

------------------------------------------------------------
-- Numbers of Bounded Width
------------------------------------------------------------

namespace GraphSchema

/- Zeros at the end multiply a number by powers of ten. -/
theorem Digit.number_append_replicate
    (ds : List Digit)
    (k : Nat) :
    number (ds ++ List.replicate k zero) =
      number ds * Power.ten k := by
  induction k with
  | zero =>
      simp [Power.ten]
  | succ k ih =>
      rw [List.replicate_succ', ← List.append_assoc,
        number_append_singleton, ih, Power.ten_succ,
        Nat.mul_comm 10, Nat.mul_assoc]
      rfl

theorem Digit.not_isBlank_char :
    ∀ d : Digit, ¬ Text.IsBlank d.char := by
  decide

/- A text is not blank from a character that is not. -/
theorem Text.skipBlanks_cons
    {c : Char}
    (hc : ¬ IsBlank c)
    (cs : List Char) :
    skipBlanks (c :: cs) = c :: cs := by
  rw [skipBlanks, List.dropWhile_cons_of_neg (by simpa using hc)]

namespace DateTime

/- Digits of a number are read if they fit the width. -/
theorem readNumber_append
    {width : Nat}
    {ds : List Digit}
    (hWidth : ds.length ≤ width)
    (hNonempty : ds ≠ [])
    {rest : List Char}
    (hRest : Digit.EndsBefore rest) :
    readNumber width (ds.map Digit.char ++ rest) =
      some (Digit.number ds, rest) := by
  have hEnds :
      Digit.EndsBefore (rest.take (width - ds.length)) := by
    intro c hc
    rw [List.head?_take] at hc
    split at hc
    · cases hc
    · exact hRest c hc
  have hTake :
      (ds.map Digit.char ++ rest).take width =
        ds.map Digit.char ++
          rest.take (width - ds.length) := by
    rw [List.take_append, List.length_map,
      List.take_of_length_le (by simpa using hWidth)]
  have hDrop :
      (ds.map Digit.char ++ rest).drop width =
        rest.drop (width - ds.length) := by
    rw [List.drop_append, List.length_map,
      List.drop_of_length_le (by simpa using hWidth),
      List.nil_append]
  unfold readNumber
  rw [hTake, hDrop, Digit.takeDigits_append ds hEnds]
  cases ds with
  | nil =>
      exact absurd rfl hNonempty
  | cons d ds =>
      simp only [List.take_append_drop]

theorem padded_ne_nil
    (width n : Nat) : Digit.padded width n ≠ [] := by
  simp [Digit.padded, Digit.ofNat_ne_nil]

theorem exists_padded_eq_cons
    (width n : Nat) :
    ∃ d ds, Digit.padded width n = d :: ds :=
  List.exists_cons_of_ne_nil (padded_ne_nil width n)

/- A number of exactly the required width is read back. -/
theorem readNumber_padded
    {k n : Nat}
    (hn : n < Nat.pow 10 (k + 1))
    {rest : List Char}
    (hRest : Digit.EndsBefore rest) :
    readNumber (k + 1)
        ((Digit.padded (k + 1) n).map Digit.char ++ rest) =
      some (n, rest) := by
  rw [readNumber_append (Nat.le_of_eq (Digit.length_padded hn))
    (padded_ne_nil _ n) hRest, Digit.number_padded]

/- A number of any width is read back if there is room. -/
theorem readNumber_padded_add
    (width n k : Nat)
    {rest : List Char}
    (hRest : Digit.EndsBefore rest) :
    readNumber ((Digit.padded width n).length + k)
        ((Digit.padded width n).map Digit.char ++ rest) =
      some (n, rest) := by
  rw [readNumber_append (Nat.le_add_right _ k)
    (padded_ne_nil _ n) hRest, Digit.number_padded]

end DateTime

end GraphSchema

------------------------------------------------------------
-- Parts of a Date
------------------------------------------------------------

namespace GraphSchema

namespace DateTime

/- The characters of a year: perhaps a sign, and digits. -/
theorem toList_yearText (year : Int) :
    (yearText year).toList =
      (if year < 0 then ['-']
        else if 9999 < year then ['+']
        else []) ++
        (Digit.padded 4 year.natAbs).map Digit.char := by
  by_cases hNegative : year < 0
  · simp [yearText, hNegative, Digit.text]
  · by_cases hLarge : 9999 < year <;>
      simp [yearText, hNegative, hLarge, Digit.text]

/- A year of any sign and width is read back. -/
theorem readYear_yearText
    (year : Int)
    {rest : List Char}
    (hRest : Digit.EndsBefore rest) :
    readYear ((yearText year).toList ++ rest) =
      some (year, rest) := by
  have hWide :=
    readNumber_padded_add 4 year.natAbs rest.length hRest
  rw [toList_yearText]
  by_cases hNegative : year < 0
  · have hYear : -(year.natAbs : Int) = year := by
      omega
    have hMinus :
        readYear
            ('-' :: ((Digit.padded 4 year.natAbs).map
              Digit.char ++ rest)) =
          some (-(year.natAbs : Int), rest) := by
      simp [readYear, hWide]
    rw [if_pos hNegative, List.append_assoc]
    exact hMinus.trans (by rw [hYear])
  · have hYear : (year.natAbs : Int) = year := by
      omega
    by_cases hLarge : 9999 < year
    · simp [hNegative, hLarge, readYear, hWide, hYear]
    · have hFour : year.natAbs < Nat.pow 10 (3 + 1) := by
        have hPower : Nat.pow 10 (3 + 1) = 10000 := rfl
        omega
      have hNarrow := readNumber_padded hFour hRest
      rw [if_neg hNegative, if_neg hLarge, List.nil_append]
      rcases exists_padded_eq_cons 4 year.natAbs with
        ⟨d, ds, hDigits⟩
      have hMinus : d.char ≠ '-' :=
        Digit.char_ne (by decide) d
      have hPlus : d.char ≠ '+' :=
        Digit.char_ne (by decide) d
      rw [hDigits, List.map_cons, List.cons_append]
        at hNarrow ⊢
      simp [readYear, hMinus, hPlus, hNarrow, hYear]

theorem skipBlanks_yearText
    (year : Int)
    (rest : List Char) :
    Text.skipBlanks ((yearText year).toList ++ rest) =
      (yearText year).toList ++ rest := by
  rw [toList_yearText]
  split
  · exact Text.skipBlanks_cons (by decide) _
  · split
    · exact Text.skipBlanks_cons (by decide) _
    · rcases exists_padded_eq_cons 4 year.natAbs with
        ⟨d, ds, hDigits⟩
      rw [hDigits]
      exact Text.skipBlanks_cons (Digit.not_isBlank_char d) _

theorem readPair_pairText
    {n : Nat}
    (hn : n < 100)
    {rest : List Char}
    (hRest : Digit.EndsBefore rest) :
    readPair ((pairText n).toList ++ rest) =
      some (n, rest) := by
  have hTwo : n < Nat.pow 10 (1 + 1) := hn
  have hRead := readNumber_padded hTwo hRest
  have hText :
      (pairText n).toList =
        (Digit.padded 2 n).map Digit.char := by
    simp [pairText, Digit.text]
  rw [hText, readPair]
  rcases exists_padded_eq_cons 2 n with ⟨d, ds, hDigits⟩
  rw [hDigits, List.map_cons, List.cons_append] at hRead ⊢
  rw [Text.skipBlanks_cons (Digit.not_isBlank_char d)]
  exact hRead

theorem readSeparator_cons
    {c : Char}
    (hc : ¬ Text.IsBlank c)
    (rest : List Char) :
    readSeparator c (c :: rest) = some rest := by
  rw [readSeparator, Text.skipBlanks_cons hc, readChar,
    if_pos rfl]

/- Nine digits behind the point count nanoseconds. -/
theorem readFraction_padded
    {k n : Nat}
    (hk : k < 9)
    (hn : n < Nat.pow 10 (k + 1)) :
    readFraction
        (Numeral.fractionChars (Digit.padded (k + 1) n)) =
      some (n * Power.ten (8 - k), []) := by
  have hLength := Digit.length_padded hn
  have hNumber :=
    Digit.number_append_replicate
      (Digit.padded (k + 1) n) (8 - k)
  rw [Digit.number_padded] at hNumber
  have hTake :
      (Digit.padded (k + 1) n).take 9 =
        Digit.padded (k + 1) n :=
    List.take_of_length_le (by omega)
  rcases exists_padded_eq_cons (k + 1) n with
    ⟨d, ds, hDigits⟩
  rw [hDigits] at hLength hNumber hTake ⊢
  have hZeros : 9 - (d :: ds).length = 8 - k := by
    omega
  have hRead := Digit.takeDigits_map_char (d :: ds)
  simp only [Numeral.fractionChars, readFraction]
  rw [hRead]
  simp only [hTake, hZeros, hNumber]

/- The digits needed to be exact are read back. -/
theorem readFraction_exactFraction (t : DateTime) :
    readFraction (Numeral.fractionChars t.exactFraction) =
      some (t.subsecond, []) := by
  have hLt : t.subsecond < 1000000000 :=
    Nat.mod_lt _ (by decide)
  unfold exactFraction
  split
  · next hZero =>
      rw [hZero]
      rfl
  · split
    · next hMillis =>
        rw [readFraction_padded (k := 2) (by decide)]
        · have hValue :
              t.subsecond / 1000000 * Power.ten (8 - 2) =
                t.subsecond := by
            have hPower : Power.ten (8 - 2) = 1000000 := rfl
            rw [hPower]
            omega
          rw [hValue]
        · have hPower : Nat.pow 10 (2 + 1) = 1000 := rfl
          omega
    · split
      · next hMicros =>
          rw [readFraction_padded (k := 5) (by decide)]
          · have hValue :
                t.subsecond / 1000 * Power.ten (8 - 5) =
                  t.subsecond := by
              have hPower : Power.ten (8 - 5) = 1000 := rfl
              rw [hPower]
              omega
            rw [hValue]
          · have hPower : Nat.pow 10 (5 + 1) = 1000000 := rfl
            omega
      · rw [readFraction_padded (k := 8) (by decide) hLt]
        have hPower : Power.ten (8 - 8) = 1 := rfl
        rw [hPower, Nat.mul_one]

end DateTime

end GraphSchema

------------------------------------------------------------
-- Dates
------------------------------------------------------------

namespace GraphSchema

/- No month has more than thirty-one days. -/
theorem Calendar.daysInMonth_le
    (year : Int)
    (month : Nat) :
    daysInMonth year month ≤ 31 := by
  unfold daysInMonth
  split
  · split <;> omega
  · split <;> omega

namespace DateTime

/- The characters of a date, part by part. -/
theorem toList_textWith
    (fraction : List Digit)
    (t : DateTime) :
    (t.textWith fraction).toList =
      (yearText t.fields.year).toList ++ '-' ::
        ((pairText t.fields.month).toList ++ '-' ::
          ((pairText t.fields.day).toList ++ 'T' ::
            ((pairText t.fields.hour).toList ++ ':' ::
              ((pairText t.fields.minute).toList ++ ':' ::
                ((pairText t.shownSecond).toList ++
                  Numeral.fractionChars fraction))))) := by
  cases fraction <;>
    simp [textWith, Digit.text, Numeral.fractionChars]

/- A leap second is shown as one more second. -/
theorem shownSecond_eq (t : DateTime) :
    t.shownSecond =
        t.fields.second + (if t.IsLeapSecond then 1 else 0) ∧
      t.fields.nanosecond =
        t.subsecond +
          (if t.IsLeapSecond then Calendar.second else 0) := by
  rcases t.valid with ⟨_, _, _, _, _, _, hNano⟩
  have hUnit : Calendar.second = 1000000000 := rfl
  unfold shownSecond subsecond
  by_cases hLeap : t.IsLeapSecond
  · rw [if_pos hLeap, if_pos hLeap]
    unfold IsLeapSecond at hLeap
    rw [hUnit] at hNano hLeap ⊢
    omega
  · rw [if_neg hLeap, if_neg hLeap]
    unfold IsLeapSecond at hLeap
    rw [hUnit] at hLeap ⊢
    omega

/-
  The shown second and the nanoseconds behind it tell the
  second and the nanoseconds of a regular date: only in a
  leap second it is shown as second 60.
-/
theorem second_of_shownSecond
    {t : DateTime}
    (h : t.IsRegular) :
    (if t.shownSecond = 60 then 59 else t.shownSecond) =
        t.fields.second ∧
      (if t.shownSecond = 60 then
          Calendar.second + t.subsecond
        else t.subsecond) =
        t.fields.nanosecond ∧
      t.shownSecond < 100 := by
  rcases t.valid with ⟨_, _, _, _, _, hSecond, _⟩
  rcases t.shownSecond_eq with ⟨hShown, hNano⟩
  by_cases hLeap : t.IsLeapSecond
  · have hEnd := h hLeap
    rw [if_pos hLeap] at hShown hNano
    rw [if_pos (by omega), if_pos (by omega)]
    omega
  · rw [if_neg hLeap] at hShown hNano
    rw [if_neg (by omega), if_neg (by omega)]
    omega

/- Carrying a date keeps what is shown of it. -/
theorem shown_carried (t : DateTime) :
    t.carried.shownSecond = t.shownSecond ∧
      t.carried.subsecond = t.subsecond := by
  by_cases h : t.IsRegular
  · rw [carried_of_isRegular h]
    exact ⟨rfl, rfl⟩
  · have hUnit : Calendar.second = 1000000000 := rfl
    have hLeap := (exists_next_second h).1
    rw [carried, dif_neg h]
    unfold shownSecond subsecond
    dsimp only
    rw [hUnit] at hLeap ⊢
    omega

theorem textWith_carried
    (fraction : List Digit)
    (t : DateTime) :
    t.carried.textWith fraction = t.textWith fraction := by
  have hShown := t.shown_carried.1
  by_cases h : t.IsRegular
  · rw [carried_of_isRegular h]
  · rw [carried, dif_neg h] at hShown ⊢
    unfold textWith
    rw [hShown]

theorem exactText_carried (t : DateTime) :
    t.carried.exactText = t.exactText := by
  rw [exactText, textWith_carried, exactFraction,
    t.shown_carried.2]
  rfl

theorem display_carried (t : DateTime) :
    t.carried.display = t.display := by
  rw [display, textWith_carried, t.shown_carried.2]
  rfl

/-
  The parts of a regular date are read back from its text
  with any digits after the second.  These count the
  nanoseconds that are read, in addition to those of a leap
  second.
-/
theorem readFields_textWith
    {fraction : List Digit}
    {n : Nat}
    {t : DateTime}
    (h : t.IsRegular)
    (hRead :
      readFraction (Numeral.fractionChars fraction) =
        some (n, [])) :
    readFields (t.textWith fraction).toList =
      some ({ t.fields with
        nanosecond :=
          if t.shownSecond = 60 then Calendar.second + n
          else n }, []) := by
  rcases t.valid with
    ⟨_, hMonth, hDay, hHour, hMinute, _, _⟩
  rcases second_of_shownSecond h with ⟨hSecond, _, hShown⟩
  have hMonths : t.fields.month < 100 := by
    omega
  have hDays : t.fields.day < 100 := by
    have hMax :=
      Calendar.daysInMonth_le t.fields.year t.fields.month
    omega
  have hFraction :
      Digit.EndsBefore (Numeral.fractionChars fraction) := by
    cases fraction with
    | nil => exact Digit.endsBefore_nil
    | cons d ds => exact Digit.endsBefore_cons (by decide)
  have hEnds :
      ∀ rest : List Char,
        Digit.EndsBefore ('-' :: rest) ∧
          Digit.EndsBefore ('T' :: rest) ∧
          Digit.EndsBefore (':' :: rest) := by
    intro rest
    refine ⟨?_, ?_, ?_⟩ <;>
      exact Digit.endsBefore_cons (by decide)
  have hBlank :
      ¬ Text.IsBlank '-' ∧ ¬ Text.IsBlank 'T' ∧
        ¬ Text.IsBlank ':' := by
    decide
  rcases hBlank with ⟨hDash, hLetter, hColon⟩
  rw [toList_textWith]
  unfold readFields
  rw [skipBlanks_yearText]
  simp only [Option.bind_eq_bind, Option.bind_some,
    readYear_yearText t.fields.year (hEnds _).1,
    readSeparator_cons hDash, readSeparator_cons hLetter,
    readSeparator_cons hColon,
    readPair_pairText hMonths (hEnds _).1,
    readPair_pairText hDays (hEnds _).2.1,
    readPair_pairText (Nat.lt_trans hHour (by decide))
      (hEnds _).2.2,
    readPair_pairText (Nat.lt_trans hMinute (by decide))
      (hEnds _).2.2,
    readPair_pairText hShown hFraction, hRead, hSecond]
  rfl

theorem readFields_exactText
    {t : DateTime}
    (h : t.IsRegular) :
    readFields t.exactText.toList = some (t.fields, []) := by
  rw [exactText,
    readFields_textWith h t.readFraction_exactFraction,
    (second_of_shownSecond h).2.1]

/- Every date is read back carried from its exact text. -/
theorem ofText?_exactText (t : DateTime) :
    ofText? t.exactText = some t.carried := by
  rw [← exactText_carried, ofText?,
    readFields_exactText t.isRegular_carried]
  exact ofFields?_fields t.isRegular_carried

/- What is read from any text is regular. -/
theorem isRegular_of_ofText?
    {s : String}
    {t : DateTime}
    (h : ofText? s = some t) : t.IsRegular := by
  rcases Option.bind_eq_some_iff.mp h with
    ⟨⟨fields, rest⟩, _, hDate⟩
  dsimp only at hDate
  split at hDate
  · exact isRegular_of_ofFields? hDate
  · cases hDate

end DateTime

end GraphSchema
