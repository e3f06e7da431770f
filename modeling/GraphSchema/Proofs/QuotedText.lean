import GraphSchema.Argument
import Mathlib.Data.List.Basic

/-
  This file shows that the displayed text of a string is a
  literal that shows its own end, so that strings and the
  arguments that carry them are told apart even when other
  text follows.

  Key definitions include:
    * `Text.slashEach`

  Key theorems include:
    * `Text.escape_eq_passes`
    * `Text.slashEach_inj`
    * `Text.quote_append_inj`
    * `Parameter.text_append_inj`
    * `Argument.literal_shows_its_end`
-/

------------------------------------------------------------
-- Two Passes of Escaping
------------------------------------------------------------

namespace GraphSchema

namespace Text

/- Put a backslash before every occurrence of a character. -/
def slashEach
    (mark : Char)
    (cs : List Char) : List Char :=
  cs.flatMap (fun c => if c = mark then ['\\', c] else [c])

/-
  Escaping each character at once is the same as two passes,
  of which the first one escapes the backslashes.
-/
theorem escape_eq_passes (cs : List Char) :
    escape cs = slashEach '"' (slashEach '\\' cs) := by
  rw [escape, slashEach, slashEach, List.flatMap_assoc]
  apply List.flatMap_congr
  intro c _
  unfold escapeChar
  by_cases hSlash : c = '\\'
  · subst hSlash
    rfl
  · by_cases hQuote : c = '"'
    · subst hQuote
      rfl
    · simp [hSlash, hQuote]

/-
  In the other order the second pass would escape what the
  first one has inserted.
-/
example :
    slashEach '\\' (slashEach '"' ['"']) =
      ['\\', '\\', '"'] := by
  decide

end Text

end GraphSchema

------------------------------------------------------------
-- Texts After One Pass
------------------------------------------------------------

namespace GraphSchema

namespace Text

theorem slashEach_cons
    (mark c : Char)
    (cs : List Char) :
    slashEach mark (c :: cs) =
      (if c = mark then ['\\', c] else [c]) ++
        slashEach mark cs := by
  rw [slashEach, List.flatMap_cons]
  rfl

theorem slashEach_append
    (mark : Char)
    (cs ds : List Char) :
    slashEach mark (cs ++ ds) =
      slashEach mark cs ++ slashEach mark ds := by
  rw [slashEach, List.flatMap_append]
  rfl

theorem head?_slashEach_ne
    {mark : Char}
    (hMark : mark ≠ '\\')
    (cs : List Char) :
    (slashEach mark cs).head? ≠ some mark := by
  cases cs with
  | nil =>
      simp [slashEach]
  | cons c cs =>
      by_cases hc : c = mark
      · simp [slashEach_cons, hc, hMark.symm]
      · simp [slashEach_cons, hc]

/-
  Slashed texts are the same only if the texts are.  A
  backslash of the text is not taken for one that was put
  before the character: that one is never there without it.
-/
theorem slashEach_inj
    {mark : Char}
    (hMark : mark ≠ '\\')
    {cs ds : List Char}
    (h : slashEach mark cs = slashEach mark ds) :
    cs = ds := by
  have hHead := head?_slashEach_ne hMark
  induction cs generalizing ds with
  | nil =>
      cases ds with
      | nil => rfl
      | cons d ds =>
          by_cases hd : d = mark <;>
            simp [slashEach, hd] at h
  | cons c cs ih =>
      cases ds with
      | nil =>
          by_cases hc : c = mark <;>
            simp [slashEach, hc] at h
      | cons d ds =>
          by_cases hc : c = mark <;> by_cases hd : d = mark <;>
            simp only [slashEach_cons, hc, hd, if_true,
              if_false, List.cons_append, List.nil_append,
              List.cons.injEq, true_and] at h
          · rw [hc, hd, ih h]
          · exact absurd (by rw [← h.2]; rfl) (hHead ds)
          · exact absurd (by rw [h.2]; rfl) (hHead cs)
          · rw [h.1, ih h.2]

end Text

end GraphSchema

------------------------------------------------------------
-- Literals in Front of Other Text
------------------------------------------------------------

namespace GraphSchema

namespace Text

/- The characters of a literal and of what follows it. -/
theorem toList_quote_append (s t : String) :
    (quote s ++ t).toList =
      '"' :: (escape s.toList ++ '"' :: t.toList) := by
  simp [quote]

/- A literal and what follows it are told apart. -/
theorem quote_append_inj
    {s u t t' : String}
    (h : quote s ++ t = quote u ++ t') :
    s = u ∧ t = t' := by
  have hChars := congrArg String.toList h
  rw [toList_quote_append, toList_quote_append,
    List.cons.injEq] at hChars
  -- The same reader gets both contents and both remainders.
  have hRead := unquote_escape s.toList t.toList
  rw [hChars.2, unquote_escape, Option.some.injEq,
    Prod.mk.injEq] at hRead
  exact ⟨String.toList_injective hRead.1.symm,
    String.toList_injective hRead.2.symm⟩

end Text

/- A parameter ends before the colon behind it. -/
theorem Parameter.text_append_inj
    {k l : Parameter}
    {x y : String}
    (h : k.text ++ (": " ++ x) = l.text ++ (": " ++ y)) :
    k = l ∧ x = y := by
  have hChars := congrArg String.toList h
  cases k <;> cases l <;>
    simp [text] at hChars ⊢ <;>
    exact String.toList_injective hChars

namespace Argument

/-
  A displayed string is the text between two quotes with a
  backslash before each of its backslashes and then before
  each of its quotes.  Behind the opening quote a reader, to
  whom a backslash only announces the next character, finds
  exactly the string before the first quote, and exactly
  what follows the literal behind it.  An argument with a
  string is told apart from all others, and from whatever
  follows it.
-/
theorem literal_shows_its_end :
    (∀ s : String,
      (Value.string s).display.toList =
        '"' :: (Text.slashEach '"'
          (Text.slashEach '\\' s.toList) ++ ['"'])) ∧
    (∀ s t : String, ∃ cs,
      ((Value.string s).display ++ t).toList = '"' :: cs ∧
        Text.unquote cs = some (s.toList, t.toList)) ∧
    (∀ (k l : Parameter) (s u t t' : String),
      display ⟨k, .string s⟩ ++ t =
          display ⟨l, .string u⟩ ++ t' ↔
        k = l ∧ s = u ∧ t = t') := by
  refine ⟨?_, ?_, ?_⟩
  · intro s
    rw [← Text.escape_eq_passes]
    simp [Value.display, Text.quote]
  · intro s t
    exact ⟨_, Text.toList_quote_append s t,
      Text.unquote_escape s.toList t.toList⟩
  · intro k l s u t t'
    constructor
    · intro h
      simp only [display, String.append_assoc] at h
      rcases Parameter.text_append_inj h with ⟨hSame, hRest⟩
      exact ⟨hSame, Text.quote_append_inj hRest⟩
    · rintro ⟨rfl, rfl, rfl⟩
      rfl

end Argument

end GraphSchema
