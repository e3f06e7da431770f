import GraphSchema.Calendar.DateTime
import GraphSchema.Decimal.Digits
import GraphSchema.Text.Blank

/-
  This file defines the texts of dates with a time of day,
  such as `2019-03-01T12:30:00.500`, and the reading of such
  texts.

  Key definitions include:
    * `DateTime.textWith`
    * `DateTime.display`
    * `DateTime.exactText`
    * `DateTime.ofText?`
-/

------------------------------------------------------------
-- Writing Dates
------------------------------------------------------------

namespace GraphSchema

namespace DateTime

/-
  A year has at least four digits.  A year that is negative
  or has more than four digits has a sign.
-/
def yearText (year : Int) : String :=
  let digits := Digit.text (Digit.padded 4 year.natAbs)
  if year < 0 then
    "-" ++ digits
  else if 9999 < year then
    "+" ++ digits
  else
    digits

/- A part of a date other than the year has two digits. -/
def pairText (n : Nat) : String :=
  Digit.text (Digit.padded 2 n)

/- The shown second, which is 60 in a leap second. -/
def shownSecond (t : DateTime) : Nat :=
  t.fields.second + t.fields.nanosecond / Calendar.second

/- The nanoseconds after the shown second. -/
def subsecond (t : DateTime) : Nat :=
  t.fields.nanosecond % Calendar.second

/- The text of a date with given digits after the second. -/
def textWith
    (fraction : List Digit)
    (t : DateTime) : String :=
  let tail :=
    match fraction with
    | [] => ""
    | ds => "." ++ Digit.text ds
  yearText t.fields.year
    ++ "-" ++ pairText t.fields.month
    ++ "-" ++ pairText t.fields.day
    ++ "T" ++ pairText t.fields.hour
    ++ ":" ++ pairText t.fields.minute
    ++ ":" ++ pairText t.shownSecond
    ++ tail

/- The displayed text of a date has three further digits. -/
def display (t : DateTime) : String :=
  t.textWith (Digit.padded 3 (t.subsecond / 1000000))

/-
  The digits after the second that are needed to be exact:
  none, or three, six or nine.
-/
def exactFraction (t : DateTime) : List Digit :=
  if t.subsecond = 0 then
    []
  else if t.subsecond % 1000000 = 0 then
    Digit.padded 3 (t.subsecond / 1000000)
  else if t.subsecond % 1000 = 0 then
    Digit.padded 6 (t.subsecond / 1000)
  else
    Digit.padded 9 t.subsecond

/- The text of a date that loses nothing. -/
def exactText (t : DateTime) : String :=
  t.textWith t.exactFraction

end DateTime

end GraphSchema

------------------------------------------------------------
-- Reading Dates
------------------------------------------------------------

namespace GraphSchema

namespace DateTime

/-
  The number of at most `width` digits, but at least one, at
  the front of a text.  Further digits are left.
-/
def readNumber
    (width : Nat)
    (cs : List Char) :
    Option (Nat × List Char) :=
  match Digit.takeDigits (cs.take width) with
  | ([], _) => none
  | (ds, rest) =>
      some (Digit.number ds, rest ++ cs.drop width)

/-
  The year at the front of a text.  A year with a sign has
  any number of digits, and one without has at most four.
-/
def readYear :
    List Char → Option (Int × List Char)
| '-' :: cs =>
    (readNumber cs.length cs).map
      (fun (n, rest) => (-(n : Int), rest))
| '+' :: cs =>
    (readNumber cs.length cs).map
      (fun (n, rest) => ((n : Int), rest))
| cs =>
    (readNumber 4 cs).map
      (fun (n, rest) => ((n : Int), rest))

/- The text behind a required character. -/
def readChar
    (c : Char)
    (cs : List Char) :
    Option (List Char) :=
  match cs with
  | [] => none
  | d :: rest => if d = c then some rest else none

/- A number of one or two digits after optional blanks. -/
def readPair
    (cs : List Char) :
    Option (Nat × List Char) :=
  readNumber 2 (Text.skipBlanks cs)

/- A separator after optional blanks. -/
def readSeparator
    (c : Char)
    (cs : List Char) :
    Option (List Char) :=
  readChar c (Text.skipBlanks cs)

/-
  The nanoseconds behind the second.  Nine digits are read,
  missing ones count as zeros, and further ones are dropped.
-/
def readFraction
    (cs : List Char) :
    Option (Nat × List Char) :=
  match cs with
  | '.' :: rest =>
      match Digit.takeDigits rest with
      | ([], _) => none
      | (ds, rest) =>
          let zeros :=
            List.replicate (9 - ds.length) Digit.zero
          some (Digit.number (ds.take 9 ++ zeros), rest)
  | _ => some (0, cs)

/-
  The parts of a date at the front of a text.  Second 60 is
  the leap second that follows second 59.
-/
def readFields
    (cs : List Char) :
    Option (Calendar.Fields × List Char) := do
  let (year, cs) ← readYear (Text.skipBlanks cs)
  let cs ← readSeparator '-' cs
  let (month, cs) ← readPair cs
  let cs ← readSeparator '-' cs
  let (day, cs) ← readPair cs
  let cs ← readSeparator 'T' cs
  let (hour, cs) ← readPair cs
  let cs ← readSeparator ':' cs
  let (minute, cs) ← readPair cs
  let cs ← readSeparator ':' cs
  let (second, cs) ← readPair cs
  let (nanosecond, cs) ← readFraction cs
  let leap := second = 60
  return (
    { year := year
      month := month
      day := day
      hour := hour
      minute := minute
      second := if leap then 59 else second
      nanosecond :=
        if leap then Calendar.second + nanosecond
        else nanosecond },
    cs)

/-
  The date written by a text.  Nothing but blanks may follow
  the date, and the calendar has to have it.
-/
def ofText? (s : String) : Option DateTime := do
  let (fields, rest) ← readFields s.toList
  if Text.skipBlanks rest = [] then
    ofFields? fields
  else
    none

end DateTime

end GraphSchema
