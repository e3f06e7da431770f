/-
  This file defines the string literals of documents: the
  escapes that a text is written with, and the reading of a
  literal.  Escapes are given in units of sixteen bits, so
  that a literal may hold half of a surrogate pair.  Such a
  literal is well formed, but it denotes no text.

  Key definitions include:
    * `Json.Literal.escape`
    * `Json.Literal.Piece`
    * `Json.Literal.scan`
    * `Json.Literal.assemble`

  Key theorems include:
    * `Json.Literal.length_lt_of_scan`
-/

------------------------------------------------------------
-- Hexadecimal Digits
------------------------------------------------------------

namespace GraphSchema

namespace Json.Literal

/- The lower case character of a hexadecimal digit. -/
def hexChar (n : Nat) : Char :=
  "0123456789abcdef".toList.getD (n % 16) '0'

/- The value of a hexadecimal digit of any case. -/
def hexValue? (c : Char) : Option Nat :=
  let n := c.toNat
  if 48 ≤ n ∧ n < 58 then
    some (n - 48)
  else if 65 ≤ n ∧ n < 71 then
    some (n - 55)
  else if 97 ≤ n ∧ n < 103 then
    some (n - 87)
  else
    none

end Json.Literal

end GraphSchema

------------------------------------------------------------
-- Writing Literals
------------------------------------------------------------

namespace GraphSchema

namespace Json.Literal

/-
  A character inside a literal.  Only quotes, backslashes
  and control characters are escaped, the latter by a letter
  if they have one.
-/
def escapeChar (c : Char) : List Char :=
  if c = '"' then ['\\', '"']
  else if c = '\\' then ['\\', '\\']
  else if c = '\x08' then ['\\', 'b']
  else if c = '\t' then ['\\', 't']
  else if c = '\n' then ['\\', 'n']
  else if c = '\x0c' then ['\\', 'f']
  else if c = '\r' then ['\\', 'r']
  else if c.toNat < 0x20 then
    ['\\', 'u', '0', '0',
      hexChar (c.toNat / 16), hexChar c.toNat]
  else
    [c]

/- A text inside a literal. -/
def escape (cs : List Char) : List Char :=
  cs.flatMap escapeChar

end Json.Literal

end GraphSchema

------------------------------------------------------------
-- Reading Literals
------------------------------------------------------------

namespace GraphSchema

namespace Json.Literal

/- A character of a literal, or half of a surrogate pair. -/
inductive Piece where
| char (c : Char)
| half (unit : Nat)
deriving DecidableEq

/- The piece of an escaped unit of sixteen bits. -/
def pieceOfUnit (unit : Nat) : Piece :=
  if 0xD800 ≤ unit ∧ unit < 0xE000 then
    .half unit
  else
    .char (Char.ofNat unit)

/- The character that a letter stands for in an escape. -/
def escapedChar? (c : Char) : Option Char :=
  if c = '"' ∨ c = '\\' ∨ c = '/' then some c
  else if c = 'b' then some '\x08'
  else if c = 't' then some '\t'
  else if c = 'n' then some '\n'
  else if c = 'f' then some '\x0c'
  else if c = 'r' then some '\r'
  else none

/-
  The pieces of a literal behind its opening quote, and the
  text behind its closing quote.  A control character cannot
  stand in a literal.
-/
def scan :
    List Char → Option (List Piece × List Char)
| '"' :: rest => some ([], rest)
| '\\' :: 'u' :: a :: b :: c :: d :: rest => do
    let a ← hexValue? a
    let b ← hexValue? b
    let c ← hexValue? c
    let d ← hexValue? d
    let unit := ((a * 16 + b) * 16 + c) * 16 + d
    let (pieces, rest) ← scan rest
    return (pieceOfUnit unit :: pieces, rest)
| '\\' :: c :: rest => do
    let c ← escapedChar? c
    let (pieces, rest) ← scan rest
    return (.char c :: pieces, rest)
| c :: rest =>
    if c = '\\' ∨ c.toNat < 0x20 then
      none
    else do
      let (pieces, rest) ← scan rest
      return (.char c :: pieces, rest)
| [] => none

/-
  The text of a list of pieces.  The two halves of a pair
  have to stand next to each other, the high one first.
-/
def assemble : List Piece → Option (List Char)
| [] => some []
| .char c :: rest =>
    (assemble rest).map (fun cs => c :: cs)
| .half high :: .half low :: rest =>
    if high < 0xDC00 ∧ 0xDC00 ≤ low then
      let code :=
        0x10000 + (high - 0xD800) * 0x400 + (low - 0xDC00)
      (assemble rest).map (fun cs => Char.ofNat code :: cs)
    else
      none
| .half _ :: _ => none

end Json.Literal

end GraphSchema

------------------------------------------------------------
-- Progress of Reading
------------------------------------------------------------

namespace GraphSchema

namespace Json.Literal

/- A literal takes at least its closing quote. -/
theorem length_lt_of_scan
    {cs rest : List Char}
    {pieces : List Piece}
    (h : scan cs = some (pieces, rest)) :
    rest.length < cs.length := by
  fun_induction scan cs generalizing pieces with
  | case1 tail =>
      simp only [Option.some.injEq, Prod.mk.injEq] at h
      simp [← h.2]
  | case2 a b c d tail ih =>
      simp only [Option.bind_eq_bind,
        Option.bind_eq_some_iff, Option.pure_def,
        Option.some.injEq, Prod.mk.injEq,
        Prod.exists] at h
      obtain ⟨_, _, _, _, _, _, _, _, more, rest', hScan,
        _, hRest⟩ := h
      subst hRest
      have hLt := ih hScan
      simp only [List.length_cons]
      omega
  | case3 c tail _ ih =>
      simp only [Option.bind_eq_bind,
        Option.bind_eq_some_iff, Option.pure_def,
        Option.some.injEq, Prod.mk.injEq,
        Prod.exists] at h
      obtain ⟨_, _, more, rest', hScan, _, hRest⟩ := h
      subst hRest
      have hLt := ih hScan
      simp only [List.length_cons]
      omega
  | case4 =>
      simp at h
  | case5 c tail _ _ _ _ ih =>
      simp only [Option.bind_eq_bind,
        Option.bind_eq_some_iff, Option.pure_def,
        Option.some.injEq, Prod.mk.injEq,
        Prod.exists] at h
      obtain ⟨more, rest', hScan, _, hRest⟩ := h
      subst hRest
      have hLt := ih hScan
      simp only [List.length_cons]
      omega
  | case6 =>
      simp at h

end Json.Literal

end GraphSchema
