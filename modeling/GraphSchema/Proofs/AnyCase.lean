import GraphSchema.Vocabulary
import GraphSchema.Proofs.Matching

/-
  This file shows which texts name a datatype: those that
  are written like its name, but for the case of ASCII
  letters.

  Key definitions include:
    * `Text.SameLetter`
    * `Text.SameUpToCase`

  Key theorems include:
    * `Text.toLower_eq_toLower_iff`
    * `DataType.ofAnyCase?_eq_some_iff`
    * `DataType.ofAnyCase?_eq_none_iff`
    * `DataType.isAlpha_of_sameUpToCase`
-/

------------------------------------------------------------
-- The Case of Letters
------------------------------------------------------------

namespace GraphSchema

namespace Text

/- A capital ASCII letter and the small letter of it. -/
def IsCasePair (capital small : Char) : Prop :=
  'A'.toNat ≤ capital.toNat ∧ capital.toNat ≤ 'Z'.toNat ∧
    small.toNat + 'A'.toNat = capital.toNat + 'a'.toNat

/-
  Two characters are the same letter if they differ in
  nothing but the case of an ASCII letter.
-/
def SameLetter (c d : Char) : Prop :=
  c = d ∨ IsCasePair c d ∨ IsCasePair d c

/- Two texts have the same letters, one after another. -/
def SameUpToCase (s t : String) : Prop :=
  List.Forall₂ SameLetter s.toList t.toList

/- Where the letters of either case begin and end. -/
theorem letter_codes :
    'A'.toNat = 65 ∧ 'Z'.toNat = 90 ∧
      'a'.toNat = 97 ∧ 'z'.toNat = 122 :=
  ⟨rfl, rfl, rfl, rfl⟩

/- A capital ASCII letter is moved to its small letter. -/
theorem toNat_toLower (c : Char) :
    c.toLower.toNat =
      if 'A'.toNat ≤ c.toNat ∧ c.toNat ≤ 'Z'.toNat then
        c.toNat + ('a'.toNat - 'A'.toNat)
      else
        c.toNat := by
  have hCodes := letter_codes
  by_cases h : c.val ≥ 'A'.val ∧ c.val ≤ 'Z'.val
  · have hStep : ('a'.val - 'A'.val).toNat = 32 := rfl
    have hLower :
        c.toLower.toNat =
          (c.val + ('a'.val - 'A'.val)).toNat :=
      congrArg Char.toNat (dif_pos h)
    have hCapital :
        'A'.toNat ≤ c.toNat ∧ c.toNat ≤ 'Z'.toNat := h
    rw [if_pos hCapital, hLower, UInt32.toNat_add, hStep,
      Char.toNat_val]
    omega
  · have hLower : c.toLower = c := dif_neg h
    rw [hLower]
    exact (if_neg h).symm

/- The same small letter belongs to the same letters. -/
theorem toLower_eq_toLower_iff (c d : Char) :
    c.toLower = d.toLower ↔ SameLetter c d := by
  have hCodes := letter_codes
  rw [← Char.toNat_inj, toNat_toLower, toNat_toLower,
    SameLetter, IsCasePair, IsCasePair, ← Char.toNat_inj]
  split <;> split <;> omega

theorem isAlpha_iff (c : Char) :
    c.isAlpha = true ↔
      ('A'.toNat ≤ c.toNat ∧ c.toNat ≤ 'Z'.toNat) ∨
        ('a'.toNat ≤ c.toNat ∧ c.toNat ≤ 'z'.toNat) := by
  change (decide (_ ∧ _) || decide _ && decide _) = true ↔ _
  rw [Bool.or_eq_true, Bool.and_eq_true, decide_eq_true_iff,
    decide_eq_true_iff, decide_eq_true_iff]
  rfl

theorem SameLetter.isAlpha
    {c d : Char}
    (h : SameLetter c d)
    (hAlpha : d.isAlpha = true) : c.isAlpha = true := by
  have hCodes := letter_codes
  rw [isAlpha_iff] at hAlpha ⊢
  unfold SameLetter IsCasePair at h
  rw [← Char.toNat_inj] at h
  omega

end Text

end GraphSchema

------------------------------------------------------------
-- Datatypes in Any Case
------------------------------------------------------------

namespace GraphSchema

namespace DataType

open Text

/- Texts without case agree if the letters are the same. -/
theorem foldCase_eq_foldCase_iff (s t : String) :
    foldCase s = foldCase t ↔ SameUpToCase s t := by
  unfold foldCase SameUpToCase
  rw [← forall₂_map_eq_iff]
  simp only [toLower_eq_toLower_iff]

instance
    (s t : String) : Decidable (SameUpToCase s t) :=
  decidable_of_iff _ (foldCase_eq_foldCase_iff s t)

/- The names of datatypes have small letters only. -/
theorem foldCase_text (d : DataType) :
    foldCase d.text = d.text.toList := by
  cases d <;> rfl

/- No two datatypes have names that differ in case only. -/
theorem eq_of_foldCase_text
    (d e : DataType)
    (h : foldCase d.text = foldCase e.text) : d = e := by
  rw [foldCase_text, foldCase_text] at h
  exact Vocabulary.text_injective d e (String.toList_inj.mp h)

/- The datatype that a text names is found. -/
theorem ofAnyCase?_eq_some_iff
    {name : String}
    {d : DataType} :
    ofAnyCase? name = some d ↔
      SameUpToCase name d.text := by
  rw [← foldCase_eq_foldCase_iff]
  constructor
  · intro h
    have hText := List.find?_some h
    exact (beq_iff_eq.mp hText).symm
  · intro h
    cases hFind : ofAnyCase? name with
    | none =>
        have hNone :=
          List.find?_eq_none.mp hFind d
            (Vocabulary.mem_words d)
        exact absurd (beq_iff_eq.mpr h.symm) hNone
    | some e =>
        have hText := List.find?_some hFind
        have hSome : foldCase e.text = foldCase name :=
          beq_iff_eq.mp hText
        rw [eq_of_foldCase_text e d (hSome.trans h)]

theorem ofAnyCase?_eq_none_iff {name : String} :
    ofAnyCase? name = none ↔
      ∀ d : DataType, ¬ SameUpToCase name d.text := by
  rw [Option.eq_none_iff_forall_ne_some]
  simp only [ne_eq, ofAnyCase?_eq_some_iff]

/- Only ASCII letters can stand in the name of a datatype. -/
theorem isAlpha_of_sameUpToCase
    {name : String}
    {d : DataType}
    (h : SameUpToCase name d.text)
    {c : Char}
    (hc : c ∈ name.toList) : c.isAlpha = true := by
  have hText : d.text.toList.all Char.isAlpha = true := by
    cases d <;> rfl
  have hLetters :
      List.Forall₂
        (fun a b => a.isAlpha = true ∧ SameLetter a b)
        name.toList d.text.toList :=
    forall₂_imp_of_mem h
      (fun a _ b hb hSame =>
        ⟨hSame.isAlpha (List.all_eq_true.mp hText b hb),
          hSame⟩)
  exact ((List.forall₂_and_left _ _).mp hLetters).1 c hc

/- A long s is no letter of a datatype in any case. -/
example : ofAnyCase? "ſtring" = none := by decide

theorem not_sameUpToCase_empty (d : DataType) :
    ¬ SameUpToCase "" d.text := by
  intro h
  have hLength := h.length_eq
  cases d <;> exact absurd hLength (by decide)

end DataType

end GraphSchema
