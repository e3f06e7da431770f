/-
  This file defines dates with a time of day in the
  proleptic Gregorian calendar, without a time zone.  Years
  are counted through zero, and a leap second may follow any
  second.  Only after second 59 it has a name of its own; a
  date with another one is written as the next second, to
  which it is carried.

  Key definitions include:
    * `Calendar.IsLeapYear`
    * `Calendar.daysInMonth`
    * `Calendar.Fields`
    * `Calendar.Fields.Valid`
    * `DateTime`
    * `DateTime.IsRegular`
    * `DateTime.carried`
    * `DateTime.ofFields?`

  Key theorems include:
    * `DateTime.isRegular_carried`
-/

------------------------------------------------------------
-- The Calendar
------------------------------------------------------------

namespace GraphSchema

namespace Calendar

/-
  Every fourth year is a leap year, except for the hundredth
  years that are not four-hundredth ones.
-/
def IsLeapYear (year : Int) : Prop :=
  year % 4 = 0 ∧ (year % 100 ≠ 0 ∨ year % 400 = 0)

instance (year : Int) : Decidable (IsLeapYear year) := by
  unfold IsLeapYear
  infer_instance

/- The number of days of a month, from month one. -/
def daysInMonth
    (year : Int)
    (month : Nat) : Nat :=
  if month = 2 then
    if IsLeapYear year then 29 else 28
  else if month = 4 ∨ month = 6 ∨ month = 9 ∨ month = 11 then
    30
  else
    31

/- The first year of the calendar. -/
def firstYear : Int :=
  -262143

/- The last year of the calendar. -/
def lastYear : Int :=
  262142

/- The number of nanoseconds of a second. -/
def second : Nat :=
  1000000000

end Calendar

end GraphSchema

------------------------------------------------------------
-- Dates with a Time of Day
------------------------------------------------------------

namespace GraphSchema

namespace Calendar

/- The parts of a date with a time of day. -/
structure Fields where
  year : Int
  month : Nat
  day : Nat
  hour : Nat
  minute : Nat
  second : Nat
  nanosecond : Nat
deriving DecidableEq

namespace Fields

/-
  The parts name a day of the calendar and a time on it.  In
  a leap second the nanoseconds run on after the second that
  it follows.  This is any second, since a local time may be
  off by seconds.
-/
def Valid (t : Fields) : Prop :=
  (firstYear ≤ t.year ∧ t.year ≤ lastYear) ∧
  (1 ≤ t.month ∧ t.month ≤ 12) ∧
  (1 ≤ t.day ∧ t.day ≤ daysInMonth t.year t.month) ∧
  t.hour < 24 ∧
  t.minute < 60 ∧
  t.second < 60 ∧
  t.nanosecond < 2 * Calendar.second

instance (t : Fields) : Decidable t.Valid := by
  unfold Valid
  infer_instance

end Fields

end Calendar

/- A date with a time of day that the calendar has. -/
structure DateTime where
  fields : Calendar.Fields
  valid : fields.Valid
deriving DecidableEq

namespace DateTime

/- A date in a leap second. -/
def IsLeapSecond (t : DateTime) : Prop :=
  Calendar.second ≤ t.fields.nanosecond

instance (t : DateTime) : Decidable t.IsLeapSecond := by
  unfold IsLeapSecond
  infer_instance

/- A leap second, if the date is in one, follows second 59. -/
def IsRegular (t : DateTime) : Prop :=
  t.IsLeapSecond → t.fields.second = 59

instance (t : DateTime) : Decidable t.IsRegular := by
  unfold IsRegular
  infer_instance

/- An irregular leap second has a second after it. -/
theorem exists_next_second
    {t : DateTime}
    (h : ¬ t.IsRegular) :
    Calendar.second ≤ t.fields.nanosecond ∧
      t.fields.second + 1 < 60 := by
  rcases t.valid with ⟨_, _, _, _, _, hSecond, _⟩
  rcases Classical.not_imp.mp h with ⟨hLeap, hOther⟩
  exact ⟨hLeap, by omega⟩

/-
  The date that is written as a given one: a leap second
  that does not follow second 59 is the next second.
-/
def carried (t : DateTime) : DateTime :=
  if h : t.IsRegular then
    t
  else
    { fields :=
        { t.fields with
          second := t.fields.second + 1
          nanosecond :=
            t.fields.nanosecond - Calendar.second }
      valid := by
        rcases t.valid with
          ⟨hYear, hMonth, hDay, hHour, hMinute, _, hNano⟩
        rcases exists_next_second h with ⟨_, hNext⟩
        exact ⟨hYear, hMonth, hDay, hHour, hMinute, hNext,
          Nat.lt_of_le_of_lt (Nat.sub_le _ _) hNano⟩ }

theorem carried_of_isRegular
    {t : DateTime}
    (h : t.IsRegular) : t.carried = t :=
  dif_pos h

/- What a date is carried to is regular. -/
theorem isRegular_carried (t : DateTime) :
    t.carried.IsRegular := by
  by_cases h : t.IsRegular
  · rw [carried_of_isRegular h]
    exact h
  · rcases t.valid with ⟨_, _, _, _, _, _, hNano⟩
    intro hLeap
    rw [carried, dif_neg h, IsLeapSecond] at hLeap
    dsimp only at hLeap
    omega

/-
  The date with given parts, if the calendar has it.  A leap
  second is given after second 59 only.
-/
def ofFields? (t : Calendar.Fields) : Option DateTime :=
  if h : t.Valid then
    if IsRegular ⟨t, h⟩ then some ⟨t, h⟩ else none
  else
    none

/- The parts of a regular date give the date back. -/
theorem ofFields?_fields
    {t : DateTime}
    (h : t.IsRegular) :
    ofFields? t.fields = some t := by
  simp [ofFields?, t.valid, h]

/- What is given by its parts is regular. -/
theorem isRegular_of_ofFields?
    {fields : Calendar.Fields}
    {t : DateTime}
    (h : ofFields? fields = some t) : t.IsRegular := by
  unfold ofFields? at h
  split at h
  · split at h
    · next hRegular =>
        cases h
        exact hRegular
    · cases h
  · cases h

end DateTime

end GraphSchema
