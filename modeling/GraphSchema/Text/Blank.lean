/-
  This file defines the blank characters: those with the
  property White_Space of the character database.

  Key definitions include:
    * `Text.IsBlank`
    * `Text.skipBlanks`
-/

------------------------------------------------------------
-- Blank Characters
------------------------------------------------------------

namespace GraphSchema

namespace Text

/-
  The blank characters: the controls from tabulator to
  carriage return, the space, the next-line control, the
  spaces of typography and the two separators.
-/
def blanks : List Nat :=
  [0x9, 0xA, 0xB, 0xC, 0xD, 0x20, 0x85, 0xA0, 0x1680,
    0x2000, 0x2001, 0x2002, 0x2003, 0x2004, 0x2005, 0x2006,
    0x2007, 0x2008, 0x2009, 0x200A, 0x2028, 0x2029, 0x202F,
    0x205F, 0x3000]

/- A character is blank. -/
def IsBlank (c : Char) : Prop :=
  c.toNat ∈ blanks

instance (c : Char) : Decidable (IsBlank c) := by
  unfold IsBlank
  infer_instance

/- The text from its first character that is not blank. -/
def skipBlanks (cs : List Char) : List Char :=
  cs.dropWhile (fun c => IsBlank c)

end Text

end GraphSchema
