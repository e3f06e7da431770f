import GraphSchema.Statement.Formula
import Mathlib.Data.List.Basic

/-
  This file defines how formulas are written in the schema
  language and shows that what is written is read in one way
  only.  A written formula is a clause, or else a block of
  clauses.  What follows it shows where it ends, as in a
  code in which no word starts another one.

  Key definitions include:
    * `Formula.chars`
    * `Formula.IsClause`
    * `Formula.IsBlock`
    * `Formula.ReadsUniquely`

  Key theorems include:
    * `Formula.IsClause.readsUniquely`
    * `Formula.IsBlock.readsUniquely`
    * `Formula.chars_inj`
-/

------------------------------------------------------------
-- Written Formulas
------------------------------------------------------------

namespace GraphSchema

namespace Formula

mutual

/- What is written for a formula. -/
def chars : Formula → List Char
| .atom text => text.toList
| .all fs => '\x7b' :: itemChars fs
| .any fs => branchChars fs
| .not f => ['n', 'o', 't', ' '] ++ f.chars ++ [';']
termination_by structural f => f

/- The items of a block, and the end of the block. -/
def itemChars : List Formula → List Char
| [] => [' ', '\x7d']
| f :: fs => ' ' :: (f.chars ++ itemChars fs)
termination_by structural fs => fs

/- The branches of a clause, and the end of the clause. -/
def branchChars : List Formula → List Char
| [] => [';']
| f :: fs => f.chars ++ moreBranchChars fs
termination_by structural fs => fs

/- The branches behind the first one, and the end. -/
def moreBranchChars : List Formula → List Char
| [] => [';']
| f :: fs =>
    [' ', 'o', 'r', ' '] ++ f.chars ++ moreBranchChars fs
termination_by structural fs => fs

end

/- A character that nothing but an atom starts with. -/
def StartsAtom (c : Char) : Prop :=
  c ≠ 'n' ∧ c ≠ ';' ∧ c ≠ '\x7b' ∧ c ≠ '\x7d'

instance (c : Char) : Decidable (StartsAtom c) := by
  unfold StartsAtom
  infer_instance

/-
  A text that can be told from the rest: it starts like no
  other formula and ends with its only semicolon.
-/
def IsAtomText (text : String) : Prop :=
  ∃ c cs,
    text.toList = c :: (cs ++ [';']) ∧
      StartsAtom c ∧ ';' ∉ cs

mutual

/- A formula that is written with a semicolon at its end. -/
inductive IsClause : Formula → Prop where
| atom {text : String} :
    IsAtomText text →
    IsClause (.atom text)
| any {fs : List Formula} :
    (∀ f ∈ fs, IsBlock f) →
    IsClause (.any fs)
| not {f : Formula} :
    IsBlock f →
    IsClause (.not f)

/- A formula that is written between braces. -/
inductive IsBlock : Formula → Prop where
| all {fs : List Formula} :
    (∀ f ∈ fs, IsClause f) →
    IsBlock (.all fs)

end

end Formula

end GraphSchema

------------------------------------------------------------
-- Unique Reading
------------------------------------------------------------

namespace GraphSchema

namespace Formula

/-
  No other formula of a kind is written at the start of
  what starts with this one.
-/
def ReadsUniquely (P : Formula → Prop) (f : Formula) : Prop :=
  ∀ g r r',
    P g →
    f.chars ++ r = g.chars ++ r' →
      f = g ∧ r = r'

theorem IsBlock.exists_chars_eq_cons
    {f : Formula}
    (hf : f.IsBlock) :
    ∃ cs, f.chars = '\x7b' :: cs := by
  cases hf with
  | all hClauses =>
      exact ⟨_, rfl⟩

theorem exists_branchChars_eq_cons
    {fs : List Formula}
    (hBlocks : ∀ f ∈ fs, f.IsBlock) :
    ∃ c cs,
      branchChars fs = c :: cs ∧ (c = ';' ∨ c = '\x7b') := by
  cases fs with
  | nil =>
      exact ⟨';', [], rfl, .inl rfl⟩
  | cons b bs =>
      have hBlock : b.IsBlock :=
        hBlocks b (List.mem_cons_self ..)
      rcases hBlock.exists_chars_eq_cons with ⟨cs, hChars⟩
      refine ⟨'\x7b', cs ++ moreBranchChars bs, ?_, .inr rfl⟩
      rw [branchChars, hChars, List.cons_append]

/- A clause does not start with a closing brace. -/
theorem IsClause.exists_chars_eq_cons
    {f : Formula}
    (hf : f.IsClause) :
    ∃ c cs, f.chars = c :: cs ∧ c ≠ '\x7d' := by
  cases hf with
  | atom hAtom =>
      rcases hAtom with ⟨c, cs, hText, hStart, _⟩
      exact ⟨c, cs ++ [';'], hText, hStart.2.2.2⟩
  | any hBlocks =>
      rcases exists_branchChars_eq_cons hBlocks with
        ⟨c, cs, hChars, hFirst⟩
      refine ⟨c, cs, hChars, ?_⟩
      rcases hFirst with rfl | rfl <;> decide
  | not hBlock =>
      exact ⟨'n', _, rfl, by decide⟩

/- The text of an atom ends with the first semicolon. -/
theorem IsAtomText.append_inj
    {t u : String}
    {r r' : List Char}
    (ht : IsAtomText t)
    (hu : IsAtomText u)
    (h : t.toList ++ r = u.toList ++ r') :
    t = u ∧ r = r' := by
  rcases ht with ⟨c, cs, ht, _, hcs⟩
  rcases hu with ⟨d, ds, hu, _, hds⟩
  rw [ht, hu] at h
  simp only [List.cons_append, List.append_assoc,
    List.nil_append, List.cons.injEq] at h
  have hBodies : cs = ds ∧ r = r' := by
    rcases List.append_eq_append_iff.mp h.2 with
      ⟨xs, rfl, hRest⟩ | ⟨xs, rfl, hRest⟩
    · cases xs <;> simp_all
    · cases xs <;> simp_all
  rcases hBodies with ⟨hBody, hRest⟩
  refine ⟨String.toList_injective ?_, hRest⟩
  rw [ht, hu, h.1, hBody]

/- The items of a block are read uniquely if each item is. -/
theorem itemChars_inj
    {cs ds : List Formula}
    {r r' : List Char}
    (hcs : ∀ c ∈ cs, c.IsClause)
    (hds : ∀ d ∈ ds, d.IsClause)
    (hUnique : ∀ c ∈ cs, ReadsUniquely IsClause c)
    (h : itemChars cs ++ r = itemChars ds ++ r') :
    cs = ds ∧ r = r' := by
  induction cs generalizing ds with
  | nil =>
      cases ds with
      | nil =>
          exact ⟨rfl, List.append_cancel_left h⟩
      | cons d ds =>
          rcases (hds d (List.mem_cons_self ..)
            ).exists_chars_eq_cons with ⟨c, _, hd, hc⟩
          simp [itemChars, hd, hc.symm] at h
  | cons c cs ih =>
      rcases List.forall_mem_cons.mp hcs with ⟨hc, hcs⟩
      rcases List.forall_mem_cons.mp hUnique with
        ⟨hFirst, hUnique⟩
      cases ds with
      | nil =>
          rcases hc.exists_chars_eq_cons with
            ⟨x, _, hChars, hx⟩
          simp [itemChars, hChars, hx] at h
      | cons d ds =>
          rcases List.forall_mem_cons.mp hds with ⟨hd, hds⟩
          simp only [itemChars, List.cons_append,
            List.append_assoc, List.cons.injEq, true_and]
            at h
          rcases hFirst d _ _ hd h with ⟨hSame, hRest⟩
          rcases ih hcs hds hUnique hRest with
            ⟨hSames, hAfter⟩
          rw [hSame, hSames]
          exact ⟨rfl, hAfter⟩

theorem moreBranchChars_inj
    {bs cs : List Formula}
    {r r' : List Char}
    (hcs : ∀ c ∈ cs, c.IsBlock)
    (hUnique : ∀ b ∈ bs, ReadsUniquely IsBlock b)
    (h : moreBranchChars bs ++ r = moreBranchChars cs ++ r') :
    bs = cs ∧ r = r' := by
  induction bs generalizing cs with
  | nil =>
      cases cs with
      | nil =>
          exact ⟨rfl, List.append_cancel_left h⟩
      | cons c cs =>
          simp [moreBranchChars] at h
  | cons b bs ih =>
      rcases List.forall_mem_cons.mp hUnique with
        ⟨hFirst, hUnique⟩
      cases cs with
      | nil =>
          simp [moreBranchChars] at h
      | cons c cs =>
          rcases List.forall_mem_cons.mp hcs with ⟨hc, hcs⟩
          simp only [moreBranchChars, List.cons_append,
            List.nil_append, List.append_assoc,
            List.cons.injEq, true_and] at h
          rcases hFirst c _ _ hc h with ⟨hSame, hRest⟩
          rcases ih hcs hUnique hRest with ⟨hSames, hAfter⟩
          rw [hSame, hSames]
          exact ⟨rfl, hAfter⟩

theorem branchChars_inj
    {bs cs : List Formula}
    {r r' : List Char}
    (hbs : ∀ b ∈ bs, b.IsBlock)
    (hcs : ∀ c ∈ cs, c.IsBlock)
    (hUnique : ∀ b ∈ bs, ReadsUniquely IsBlock b)
    (h : branchChars bs ++ r = branchChars cs ++ r') :
    bs = cs ∧ r = r' := by
  cases bs with
  | nil =>
      cases cs with
      | nil =>
          exact ⟨rfl, List.append_cancel_left h⟩
      | cons c cs =>
          rcases (hcs c (List.mem_cons_self ..)
            ).exists_chars_eq_cons with ⟨_, hChars⟩
          simp [branchChars, hChars] at h
  | cons b bs =>
      cases cs with
      | nil =>
          rcases (hbs b (List.mem_cons_self ..)
            ).exists_chars_eq_cons with ⟨_, hChars⟩
          simp [branchChars, hChars] at h
      | cons c cs =>
          rcases List.forall_mem_cons.mp hUnique with
            ⟨hFirst, hUnique⟩
          rcases List.forall_mem_cons.mp hcs with ⟨hc, hcs⟩
          simp only [branchChars, List.append_assoc] at h
          rcases hFirst c _ _ hc h with ⟨hSame, hRest⟩
          rcases moreBranchChars_inj hcs hUnique hRest with
            ⟨hSames, hAfter⟩
          rw [hSame, hSames]
          exact ⟨rfl, hAfter⟩

theorem IsAtomText.chars_ne
    {t : String}
    {f : Formula}
    {r r' : List Char}
    (ht : IsAtomText t)
    (hf : f.IsClause)
    (hOther : ∀ u, f ≠ .atom u) :
    t.toList ++ r ≠ f.chars ++ r' := by
  intro h
  rcases ht with ⟨c, cs, hText, ⟨hn, hEnd, hOpen, _⟩, _⟩
  rw [hText] at h
  cases hf with
  | atom hAtom =>
      exact hOther _ rfl
  | any hBlocks =>
      rcases exists_branchChars_eq_cons hBlocks with
        ⟨d, ds, hChars, hFirst⟩
      rw [chars, hChars] at h
      have hSame : c = d := (List.cons.inj h).1
      rcases hFirst with rfl | rfl
      · exact hEnd hSame
      · exact hOpen hSame
  | not hBlock =>
      exact hn (List.cons.inj h).1

theorem chars_not_ne_any
    {f : Formula}
    {fs : List Formula}
    {r r' : List Char}
    (hBlocks : ∀ b ∈ fs, b.IsBlock) :
    (Formula.not f).chars ++ r ≠ (any fs).chars ++ r' := by
  intro h
  rcases exists_branchChars_eq_cons hBlocks with
    ⟨d, ds, hChars, hFirst⟩
  rw [chars, chars, hChars] at h
  have hSame : 'n' = d := (List.cons.inj h).1
  rcases hFirst with rfl | rfl <;> cases hSame

mutual

/- A clause is read in one way only. -/
theorem IsClause.readsUniquely
    {f : Formula}
    (hf : f.IsClause) :
    ReadsUniquely IsClause f := by
  intro g r r' hg h
  match f, hf with
  | .atom t, .atom hAtom =>
      cases hg with
      | atom hAtom' =>
          rcases hAtom.append_inj hAtom' h with ⟨rfl, hRest⟩
          exact ⟨rfl, hRest⟩
      | any hBlocks' =>
          exact absurd h
            (hAtom.chars_ne (.any hBlocks') (by simp))
      | not hBlock' =>
          exact absurd h
            (hAtom.chars_ne (.not hBlock') (by simp))
  | .any fs, .any hBlocks =>
      cases hg with
      | atom hAtom' =>
          exact absurd h.symm
            (hAtom'.chars_ne (.any hBlocks) (by simp))
      | any hBlocks' =>
          rw [chars, chars] at h
          rcases branchChars_inj hBlocks hBlocks'
              (fun b hb => (hBlocks b hb).readsUniquely)
              h with
            ⟨rfl, hRest⟩
          exact ⟨rfl, hRest⟩
      | not hBlock' =>
          exact absurd h.symm (chars_not_ne_any hBlocks)
  | .not b, .not hBlock =>
      cases hg with
      | atom hAtom' =>
          exact absurd h.symm
            (hAtom'.chars_ne (.not hBlock) (by simp))
      | any hBlocks' =>
          exact absurd h (chars_not_ne_any hBlocks')
      | not hBlock' =>
          simp only [chars, List.append_assoc] at h
          rcases hBlock.readsUniquely _ _ _ hBlock'
              (List.append_cancel_left h) with
            ⟨rfl, hRest⟩
          exact ⟨rfl, List.append_cancel_left hRest⟩

theorem IsBlock.readsUniquely
    {f : Formula}
    (hf : f.IsBlock) :
    ReadsUniquely IsBlock f := by
  intro g r r' hg h
  match f, hf with
  | .all cs, .all hClauses =>
      cases hg with
      | all hClauses' =>
          rw [chars, chars, List.cons_append,
            List.cons_append, List.cons.injEq] at h
          rcases itemChars_inj hClauses hClauses'
              (fun c hc => (hClauses c hc).readsUniquely)
              h.2 with
            ⟨rfl, hRest⟩
          exact ⟨rfl, hRest⟩

end

theorem IsClause.chars_ne_of_isBlock
    {f g : Formula}
    (hf : f.IsClause)
    (hg : g.IsBlock) :
    f.chars ≠ g.chars := by
  intro h
  rcases hg.exists_chars_eq_cons with ⟨cs, hChars⟩
  match f, hf with
  | .atom t, .atom ⟨c, _, hText, hStart, _⟩ =>
      rw [chars, hText, hChars] at h
      exact hStart.2.2.1 (List.cons.inj h).1
  | .any [], .any _ =>
      simp [chars, branchChars, hChars] at h
  | .any (b :: bs), .any hBlocks =>
      have hBlock : b.IsBlock :=
        hBlocks b (List.mem_cons_self ..)
      rw [chars, branchChars, ← List.append_nil g.chars] at h
      have hRest : moreBranchChars bs = [] :=
        (hBlock.readsUniquely _ _ _ hg h).2
      cases bs <;> simp [moreBranchChars] at hRest
  | .not b, .not _ =>
      simp [chars, hChars] at h

/-
  Formulas that are written alike are the same, if both are
  clauses or blocks.
-/
theorem chars_inj
    {f g : Formula}
    (hf : f.IsClause ∨ f.IsBlock)
    (hg : g.IsClause ∨ g.IsBlock)
    (h : f.chars = g.chars) : f = g := by
  have hEnd : f.chars ++ [] = g.chars ++ [] := by
    rw [h]
  rcases hf with hf | hf <;> rcases hg with hg | hg
  · exact (hf.readsUniquely _ _ _ hg hEnd).1
  · exact absurd h (hf.chars_ne_of_isBlock hg)
  · exact absurd h.symm (hg.chars_ne_of_isBlock hf)
  · exact (hf.readsUniquely _ _ _ hg hEnd).1

end Formula

end GraphSchema
