import GraphSchema.Statement.Text

/-
  This file defines the logical form of patterns.  The
  formula of a pattern is the pattern with the texts of its
  statements in their places, and is true or false when each
  text is.  Normalizing a pattern makes the conjunctions
  and disjunctions explicit that its text leaves open.

  Key definitions include:
    * `Formula`
    * `Formula.holds`
    * `Pattern.formula`
    * `Pattern.holds`
    * `Pattern.norm`
-/

------------------------------------------------------------
-- Formulas
------------------------------------------------------------

namespace GraphSchema

/- A logical combination of texts. -/
inductive Formula where
| atom (text : String)
| all (parts : List Formula)
| any (parts : List Formula)
| not (part : Formula)

namespace Formula

mutual

/- The truth of a formula, by the truth of its texts. -/
def holds (truth : String → Bool) : Formula → Bool
| .atom text => truth text
| .all fs => allHold truth fs
| .any fs => someHolds truth fs
| .not f => !f.holds truth
termination_by structural f => f

/- All of several formulas are true. -/
def allHold (truth : String → Bool) : List Formula → Bool
| [] => true
| f :: fs => f.holds truth && allHold truth fs
termination_by structural fs => fs

/- At least one of several formulas is true. -/
def someHolds (truth : String → Bool) : List Formula → Bool
| [] => false
| f :: fs => f.holds truth || someHolds truth fs
termination_by structural fs => fs

end

end Formula

end GraphSchema

------------------------------------------------------------
-- Formulas of Patterns
------------------------------------------------------------

namespace GraphSchema

namespace Pattern

mutual

/- A pattern with texts in the places of its statements. -/
def formula : Pattern → Formula
| .statement s => .atom s.text
| .conjunction ps => .all (formulas ps)
| .disjunction ps => .any (formulas ps)
| .negation p => .not p.formula
termination_by structural p => p

/- The formulas of several patterns. -/
def formulas : List Pattern → List Formula
| [] => []
| p :: ps => p.formula :: formulas ps
termination_by structural ps => ps

end

/- The formulas of patterns are those of each pattern. -/
theorem formulas_eq_map (ps : List Pattern) :
    formulas ps = ps.map formula := by
  apply eq_map_of_cons rfl
  intro p ps
  rw [formulas]

/- The truth of a pattern, by the truth of its texts. -/
def holds
    (truth : String → Bool)
    (p : Pattern) : Bool :=
  p.formula.holds truth

end Pattern

end GraphSchema

------------------------------------------------------------
-- Normal Form
------------------------------------------------------------

namespace GraphSchema

namespace Pattern

/- A pattern as a conjunction, of one pattern if needed. -/
def asBlock (p : Pattern) : Pattern :=
  if p.IsConjunction then p else .conjunction [p]

/- A pattern other than a conjunction, of one if needed. -/
def asClause (p : Pattern) : Pattern :=
  if p.IsConjunction then .disjunction [p] else p

mutual

/-
  The normal form of a pattern.  Branches of disjunctions
  and negated patterns become conjunctions, if they are
  none, and conjunctions that are items of conjunctions
  become the only branch of a disjunction.
-/
def norm : Pattern → Pattern
| .statement s => .statement s
| .conjunction ps => .conjunction (normClauses ps)
| .disjunction ps => .disjunction (normBlocks ps)
| .negation p => .negation p.norm.asBlock
termination_by structural p => p

/- The normal forms of the items of a conjunction. -/
def normClauses : List Pattern → List Pattern
| [] => []
| p :: ps => p.norm.asClause :: normClauses ps
termination_by structural ps => ps

/- The normal forms of the branches of a disjunction. -/
def normBlocks : List Pattern → List Pattern
| [] => []
| p :: ps => p.norm.asBlock :: normBlocks ps
termination_by structural ps => ps

end

/- Items are normalized one by one. -/
theorem normClauses_eq_map (ps : List Pattern) :
    normClauses ps = ps.map (fun p => p.norm.asClause) := by
  apply eq_map_of_cons rfl
  intro p ps
  rw [normClauses]

/- Branches are normalized one by one. -/
theorem normBlocks_eq_map (ps : List Pattern) :
    normBlocks ps = ps.map (fun p => p.norm.asBlock) := by
  apply eq_map_of_cons rfl
  intro p ps
  rw [normBlocks]

/- Normalizing makes no conjunction and removes none. -/
theorem isConjunction_norm (p : Pattern) :
    p.norm.IsConjunction ↔ p.IsConjunction := by
  cases p <;> rfl

end Pattern

end GraphSchema
