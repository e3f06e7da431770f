import GraphSchema.Proofs.FormulaText
import GraphSchema.Proofs.Parts

/-
  This file shows that the texts of patterns are ambiguous
  in their form only, and not in their meaning: patterns
  with the same text have the same normal form, if each of
  their statements is written with one semicolon.

  Key definitions include:
    * `Pattern.IsWritten`

  Key theorems include:
    * `Statement.isAtomText`
    * `Pattern.toList_text`
    * `Pattern.isWritten_norm`
    * `Pattern.holds_norm`
    * `Pattern.text_eq_iff_norm`
-/

------------------------------------------------------------
-- Statements as Atoms
------------------------------------------------------------

namespace GraphSchema

/- A property starts with a keyword. -/
theorem Property.exists_text_eq_cons (p : Property) :
    ∃ c cs,
      p.text.toList = c :: cs ∧ Formula.StartsAtom c := by
  have hKeyword :
      ∃ c cs,
        p.keyword.text.toList = c :: cs ∧
          Formula.StartsAtom c := by
    cases p.keyword <;>
      simp [Keyword.text, Formula.StartsAtom]
  rcases hKeyword with ⟨c, cs, hText, hStart⟩
  by_cases hArgument : p.argumentText = ""
  · refine ⟨c, cs, ?_, hStart⟩
    rw [text, propertyText, if_pos hArgument, hText]
  · refine ⟨c, cs ++ ' ' :: p.argumentText.toList, ?_,
      hStart⟩
    simp [text, propertyText, hArgument, hText]

namespace Statement

/- A statement starts with a variable or with a keyword. -/
theorem exists_body_eq_cons (s : Statement) :
    ∃ c cs,
      s.body.toList = c :: cs ∧ Formula.StartsAtom c := by
  have hDollar : Formula.StartsAtom '$' := by decide
  rcases s.var.exists_text_eq_cons with ⟨name, hVar⟩
  rw [body, bodyOf]
  by_cases hEmpty :
      String.intercalate ", " s.propertyTexts = ""
  · rw [if_pos hEmpty]
    exact ⟨'$', name, hVar, hDollar⟩
  · rw [if_neg hEmpty]
    by_cases hUser : s.var.IsUserDefined
    · rw [if_pos hUser]
      refine ⟨'$', name ++ ' ' :: (String.intercalate ", "
        s.propertyTexts).toList, ?_, hDollar⟩
      simp [hVar]
    · rw [if_neg hUser]
      rw [propertyTexts_eq_map] at hEmpty ⊢
      cases hList : s.properties.toList with
      | nil =>
          simp [hList] at hEmpty
      | cons p ps =>
          rcases p.exists_text_eq_cons with
            ⟨c, cs, hText, hStart⟩
          cases ps with
          | nil =>
              exact ⟨c, cs, by simp [hText], hStart⟩
          | cons q qs =>
              refine ⟨c, cs ++ (", " ++ String.intercalate
                ", " ((q :: qs).map Property.text)).toList,
                ?_, hStart⟩
              simp [hText]

/- A statement is an atom if it has no other semicolon. -/
theorem isAtomText
    {s : Statement}
    (h : ';' ∉ s.text.toList.dropLast) :
    Formula.IsAtomText s.text := by
  rcases s.exists_body_eq_cons with ⟨c, cs, hBody, hStart⟩
  have hText : s.text.toList = c :: cs ++ [';'] := by
    rw [text, String.toList_append, hBody]
    rfl
  rw [hText, List.dropLast_concat, List.mem_cons, not_or]
    at h
  exact ⟨c, cs, hText, hStart, h.2⟩

end Statement

end GraphSchema

------------------------------------------------------------
-- Written Normal Forms
------------------------------------------------------------

namespace GraphSchema

namespace Pattern

/- A branch is written as the block that it becomes. -/
theorem toList_blockOf
    {p : Pattern}
    (h : p.text.toList = p.norm.formula.chars) :
    (p.blockOf p.text).toList =
      p.norm.asBlock.formula.chars := by
  by_cases hConjunction : p.IsConjunction
  · have hNorm : p.norm.IsConjunction :=
      p.isConjunction_norm.mpr hConjunction
    rw [blockOf, asBlock, if_pos hConjunction, if_pos hNorm,
      h]
  · have hNorm : ¬ p.norm.IsConjunction :=
      mt p.isConjunction_norm.mp hConjunction
    rw [blockOf, asBlock, if_neg hConjunction, if_neg hNorm]
    simp [formula, formulas, Formula.chars,
      Formula.itemChars, h]

/- An item is written as the clause that it becomes. -/
theorem toList_itemOf
    {p : Pattern}
    (h : p.text.toList = p.norm.formula.chars) :
    (p.itemOf p.text).toList =
      ' ' :: p.norm.asClause.formula.chars := by
  by_cases hConjunction : p.IsConjunction
  · have hNorm : p.norm.IsConjunction :=
      p.isConjunction_norm.mpr hConjunction
    rw [itemOf, asClause, if_pos hConjunction, if_pos hNorm]
    simp [formula, formulas, Formula.chars,
      Formula.branchChars, Formula.moreBranchChars, h]
  · have hNorm : ¬ p.norm.IsConjunction :=
      mt p.isConjunction_norm.mp hConjunction
    rw [itemOf, asClause, if_neg hConjunction, if_neg hNorm]
    simp [h]

theorem toList_itemTexts
    {ps : List Pattern}
    (h : ∀ p ∈ ps, p.text.toList = p.norm.formula.chars) :
    (itemTexts ps).toList ++ [' ', '\x7d'] =
      Formula.itemChars (formulas (normClauses ps)) := by
  induction ps with
  | nil =>
      rfl
  | cons p ps ih =>
      rcases List.forall_mem_cons.mp h with ⟨hp, hps⟩
      rw [itemTexts, String.toList_append,
        toList_itemOf hp, List.append_assoc, ih hps]
      rfl

/- Branches are written behind any first one. -/
theorem toList_moreBlockTexts
    {ps : List Pattern}
    (h : ∀ p ∈ ps, p.text.toList = p.norm.formula.chars)
    (first : String) :
    (String.intercalate " or "
        (first :: blockTexts ps)).toList ++ [';'] =
      first.toList ++
        Formula.moreBranchChars
          (formulas (normBlocks ps)) := by
  induction ps generalizing first with
  | nil =>
      simp [blockTexts, normBlocks, formulas,
        Formula.moreBranchChars]
  | cons p ps ih =>
      rcases List.forall_mem_cons.mp h with ⟨hp, hps⟩
      rw [blockTexts, String.intercalate_cons_cons,
        String.toList_append, List.append_assoc, ih hps,
        toList_blockOf hp]
      simp [normBlocks, formulas, Formula.moreBranchChars]

theorem toList_blockTexts
    {ps : List Pattern}
    (h : ∀ p ∈ ps, p.text.toList = p.norm.formula.chars) :
    (String.intercalate " or " (blockTexts ps)).toList ++
        [';'] =
      Formula.branchChars (formulas (normBlocks ps)) := by
  cases ps with
  | nil =>
      rfl
  | cons p ps =>
      rcases List.forall_mem_cons.mp h with ⟨hp, hps⟩
      rw [blockTexts, toList_moreBlockTexts hps,
        toList_blockOf hp]
      rfl

/- The text of a pattern is that of its normal form. -/
theorem toList_text (p : Pattern) :
    p.text.toList = p.norm.formula.chars := by
  induction p using Pattern.induction with
  | statement s =>
      rfl
  | conjunction ps ih =>
      rw [norm, formula, Formula.chars, ← toList_itemTexts ih]
      simp [text]
  | disjunction ps ih =>
      rw [norm, formula, Formula.chars, ← toList_blockTexts ih]
      simp [text]
  | negation q ih =>
      rw [norm, formula, Formula.chars, ← toList_blockOf ih]
      simp [text]

/- Conjunctions are blocks, and other patterns clauses. -/
def IsWritten (p : Pattern) : Prop :=
  (p.IsConjunction → p.formula.IsBlock) ∧
    (¬ p.IsConjunction → p.formula.IsClause)

theorem IsWritten.isClause_or_isBlock
    {p : Pattern}
    (hp : p.IsWritten) :
    p.formula.IsClause ∨ p.formula.IsBlock := by
  by_cases hConjunction : p.IsConjunction
  · exact .inr (hp.1 hConjunction)
  · exact .inl (hp.2 hConjunction)

theorem IsWritten.asBlock
    {p : Pattern}
    (hp : p.IsWritten) :
    p.asBlock.formula.IsBlock := by
  by_cases hConjunction : p.IsConjunction
  · rw [Pattern.asBlock, if_pos hConjunction]
    exact hp.1 hConjunction
  · rw [Pattern.asBlock, if_neg hConjunction]
    apply Formula.IsBlock.all
    intro f hf
    rw [List.mem_singleton.mp hf]
    exact hp.2 hConjunction

theorem IsWritten.asClause
    {p : Pattern}
    (hp : p.IsWritten) :
    p.asClause.formula.IsClause := by
  by_cases hConjunction : p.IsConjunction
  · rw [Pattern.asClause, if_pos hConjunction]
    apply Formula.IsClause.any
    intro f hf
    rw [List.mem_singleton.mp hf]
    exact hp.1 hConjunction
  · rw [Pattern.asClause, if_neg hConjunction]
    exact hp.2 hConjunction

/- Normal forms of atoms are blocks and clauses. -/
theorem isWritten_norm
    {p : Pattern}
    (h : ∀ s ∈ p.statements, Formula.IsAtomText s.text) :
    p.norm.IsWritten := by
  have hOfParts :
      ∀ x : Pattern,
        (∀ s ∈ x.statements, Formula.IsAtomText s.text) →
        ∀ y ∈ x.parts, ∀ s ∈ y.statements,
          Formula.IsAtomText s.text := by
    intro x hx y hy s hs
    exact hx s (mem_statements_of_mem_parts hy hs)
  induction p using Pattern.induction with
  | statement s =>
      refine ⟨fun hNo => hNo.elim, fun _ => ?_⟩
      exact .atom (h s (List.mem_singleton_self s))
  | conjunction ps ih =>
      refine ⟨fun _ => ?_, fun hNo => (hNo trivial).elim⟩
      rw [norm, formula, formulas_eq_map, normClauses_eq_map,
        List.map_map]
      apply Formula.IsBlock.all
      intro f hf
      rcases List.mem_map.mp hf with ⟨q, hq, rfl⟩
      exact (ih q hq (hOfParts _ h q hq)).asClause
  | disjunction ps ih =>
      refine ⟨fun hNo => hNo.elim, fun _ => ?_⟩
      rw [norm, formula, formulas_eq_map, normBlocks_eq_map,
        List.map_map]
      apply Formula.IsClause.any
      intro f hf
      rcases List.mem_map.mp hf with ⟨q, hq, rfl⟩
      exact (ih q hq (hOfParts _ h q hq)).asBlock
  | negation q ih =>
      refine ⟨fun hNo => hNo.elim, fun _ => ?_⟩
      exact .not (ih h).asBlock

end Pattern

end GraphSchema

------------------------------------------------------------
-- Truth of Normal Forms
------------------------------------------------------------

namespace GraphSchema

namespace Pattern

variable (truth : String → Bool)

@[simp] theorem holds_asBlock (p : Pattern) :
    p.asBlock.holds truth = p.holds truth := by
  by_cases hConjunction : p.IsConjunction
  · rw [asBlock, if_pos hConjunction]
  · rw [asBlock, if_neg hConjunction]
    simp [holds, formula, formulas, Formula.holds,
      Formula.allHold]

@[simp] theorem holds_asClause (p : Pattern) :
    p.asClause.holds truth = p.holds truth := by
  by_cases hConjunction : p.IsConjunction
  · rw [asClause, if_pos hConjunction]
    simp [holds, formula, formulas, Formula.holds,
      Formula.someHolds]
  · rw [asClause, if_neg hConjunction]

theorem allHold_normClauses
    {ps : List Pattern}
    (h : ∀ p ∈ ps, p.norm.holds truth = p.holds truth) :
    Formula.allHold truth (formulas (normClauses ps)) =
      Formula.allHold truth (formulas ps) := by
  induction ps with
  | nil =>
      rfl
  | cons p ps ih =>
      rcases List.forall_mem_cons.mp h with ⟨hp, hps⟩
      have hClause : p.norm.asClause.holds truth =
          p.holds truth := by
        rw [holds_asClause, hp]
      rw [normClauses, formulas, formulas, Formula.allHold,
        Formula.allHold, ih hps]
      exact congrArg (· && _) hClause

theorem someHolds_normBlocks
    {ps : List Pattern}
    (h : ∀ p ∈ ps, p.norm.holds truth = p.holds truth) :
    Formula.someHolds truth (formulas (normBlocks ps)) =
      Formula.someHolds truth (formulas ps) := by
  induction ps with
  | nil =>
      rfl
  | cons p ps ih =>
      rcases List.forall_mem_cons.mp h with ⟨hp, hps⟩
      have hBlock : p.norm.asBlock.holds truth =
          p.holds truth := by
        rw [holds_asBlock, hp]
      rw [normBlocks, formulas, formulas, Formula.someHolds,
        Formula.someHolds, ih hps]
      exact congrArg (· || _) hBlock

/- A pattern is true exactly when its normal form is. -/
theorem holds_norm (p : Pattern) :
    p.norm.holds truth = p.holds truth := by
  induction p using Pattern.induction with
  | statement s =>
      rfl
  | conjunction ps ih =>
      exact allHold_normClauses truth ih
  | disjunction ps ih =>
      exact someHolds_normBlocks truth ih
  | negation q ih =>
      have hBlock : q.norm.asBlock.holds truth =
          q.holds truth := by
        rw [holds_asBlock, ih]
      exact congrArg Bool.not hBlock

end Pattern

end GraphSchema

------------------------------------------------------------
-- What Texts Tell
------------------------------------------------------------

namespace GraphSchema

namespace Pattern

/-
  Patterns have the same text exactly when their normal
  forms are the same up to the texts of statements, if each
  of their statements has its only semicolon at the end.
  Patterns with the same text are true alike.
-/
theorem text_eq_iff_norm
    {p q : Pattern}
    (hp : ∀ s ∈ p.statements, ';' ∉ s.text.toList.dropLast)
    (hq : ∀ s ∈ q.statements, ';' ∉ s.text.toList.dropLast) :
    (p.text = q.text ↔ p.norm.formula = q.norm.formula) ∧
    (p.text = q.text →
      ∀ truth : String → Bool,
        p.holds truth = q.holds truth) := by
  have hWritten :
      p.norm.IsWritten ∧ q.norm.IsWritten := by
    constructor
    · exact isWritten_norm
        (fun s hs => Statement.isAtomText (hp s hs))
    · exact isWritten_norm
        (fun s hs => Statement.isAtomText (hq s hs))
  have hNorm :
      p.text = q.text ↔ p.norm.formula = q.norm.formula := by
    constructor
    · intro h
      apply Formula.chars_inj
        hWritten.1.isClause_or_isBlock
        hWritten.2.isClause_or_isBlock
      rw [← toList_text, ← toList_text, h]
    · intro h
      apply String.toList_injective
      rw [toList_text, toList_text, h]
  refine ⟨hNorm, ?_⟩
  intro h truth
  rw [← p.holds_norm, ← q.holds_norm, holds, holds,
    hNorm.mp h]

/-
  A block in a block is written like a block of the only
  branch of a disjunction, and is true when that is.
-/
theorem text_eq_iff_norm_nested :
    (conjunction
        [conjunction [.statement (.new (.named "x"))]]).text =
      (conjunction
        [disjunction [.statement (.new (.named "x"))]]).text ∧
    ∀ truth : String → Bool,
      (conjunction
          [conjunction [.statement (.new (.named "x"))]]).holds
          truth =
        (conjunction
          [disjunction [.statement (.new (.named "x"))]]).holds
          truth := by
  have hBlock :
      ∀ s ∈ (conjunction [conjunction
          [.statement (.new (.named "x"))]]).statements,
        ';' ∉ s.text.toList.dropLast := by
    decide
  have hBranch :
      ∀ s ∈ (conjunction [disjunction
          [.statement (.new (.named "x"))]]).statements,
        ';' ∉ s.text.toList.dropLast := by
    decide
  rcases text_eq_iff_norm hBlock hBranch with ⟨hNorm, hTruth⟩
  have hText := hNorm.mpr rfl
  exact ⟨hText, hTruth hText⟩

end Pattern

end GraphSchema
