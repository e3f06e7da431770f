/-
  This file gives the characters of texts that are joined by
  a separator.

  Key theorems include:
    * `Text.toList_intercalate_cons`
-/

------------------------------------------------------------
-- Joined Texts
------------------------------------------------------------

namespace GraphSchema

namespace Text

/-
  Joined texts are the first one and then the others, each
  of them behind a separator.
-/
theorem toList_intercalate_cons
    (separator first : String)
    (more : List String) :
    (String.intercalate separator
        (first :: more)).toList =
      first.toList ++
        more.flatMap (fun s =>
          separator.toList ++ s.toList) := by
  induction more generalizing first with
  | nil =>
      simp
  | cons second more ih =>
      rw [String.intercalate_cons_cons, String.toList_append,
        ih, String.toList_append, List.flatMap_cons,
        List.append_assoc, List.append_assoc]

end Text

end GraphSchema
