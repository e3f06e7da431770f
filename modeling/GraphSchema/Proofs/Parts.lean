import GraphSchema.Statement.Basic

/-
  This file names the immediate parts of properties and
  patterns and gives the induction that passes from the
  parts to the whole.

  Key definitions include:
    * `Property.patterns`
    * `Pattern.leaves`
    * `Pattern.parts`
    * `Hereditary`

  Key theorems include:
    * `Hereditary.ofProperty`
    * `Hereditary.ofStatement`
    * `Hereditary.ofPattern`
    * `Pattern.induction`
-/

------------------------------------------------------------
-- Parts
------------------------------------------------------------

namespace GraphSchema

namespace Property

/- The patterns that a property refers to. -/
def patterns : Property → List Pattern
| .premise pattern => [pattern]
| .conclusion pattern => [pattern]
| _ => []

/-
  The statements of a property are its type statements, or
  else those of its patterns.
-/
theorem statements_eq_append (p : Property) :
    p.statements =
      p.types ++ p.patterns.flatMap Pattern.statements := by
  cases p <;> simp [statements, types, patterns]

end Property

namespace Pattern

/- The statement that a pattern consists of, if it is one. -/
def leaves : Pattern → List Statement
| .statement s => [s]
| _ => []

/- The patterns that a pattern combines. -/
def parts : Pattern → List Pattern
| .statement _ => []
| .conjunction patterns => patterns
| .disjunction patterns => patterns
| .negation pattern => [pattern]

theorem mem_statements_of_mem_parts
    {p q : Pattern}
    {s : Statement}
    (hq : q ∈ p.parts)
    (hs : s ∈ q.statements) : s ∈ p.statements := by
  cases p with
  | statement t =>
      simp [parts] at hq
  | conjunction ps | disjunction ps =>
      rw [statements, listStatements_eq_flatMap]
      exact List.mem_flatMap.mpr ⟨q, hq, hs⟩
  | negation r =>
      rw [List.mem_singleton.mp hq] at hs
      exact hs

end Pattern

namespace Properties

theorem mem_toList_iff
    (ps : Properties)
    (p : Property) :
    p ∈ ps.toList ↔
      ∃ e ∈ ps.newestFirst, e.property = p := by
  simp [toList]

end Properties

end GraphSchema

------------------------------------------------------------
-- Induction
------------------------------------------------------------

namespace GraphSchema

/-
  Three predicates are hereditary when each of them passes
  from the parts of a property, statement or pattern to the
  whole.
-/
structure Hereditary
    (P : Property → Prop)
    (S : Statement → Prop)
    (T : Pattern → Prop) : Prop where
  property :
    ∀ p : Property,
      (∀ s ∈ p.types, S s) →
      (∀ pattern ∈ p.patterns, T pattern) →
      P p
  statement :
    ∀ s : Statement,
      (∀ p ∈ s.properties.toList, P p) →
      S s
  pattern :
    ∀ p : Pattern,
      (∀ s ∈ p.leaves, S s) →
      (∀ q ∈ p.parts, T q) →
      T p

namespace Hereditary

variable {P : Property → Prop}
variable {S : Statement → Prop}
variable {T : Pattern → Prop}

mutual

/- What is hereditary holds of every property. -/
theorem ofProperty
    (h : Hereditary P S T)
    (p : Property) : P p := by
  match p with
  | .type _ | .abstract | .datatype _ | .regex _ =>
      apply h.property <;>
        simp [Property.types, Property.patterns]
  | .sub s _ | .has s _ _ | .plays s _ | .relates s none =>
      have hStatement : S s := ofStatement h s
      apply h.property
      · simpa [Property.types] using hStatement
      · simp [Property.patterns]
  | .relates s (some t) =>
      have hRole : S s := ofStatement h s
      have hSuperRole : S t := ofStatement h t
      apply h.property
      · simp [Property.types, hRole, hSuperRole]
      · simp [Property.patterns]
  | .premise pattern | .conclusion pattern =>
      have hPattern : T pattern := ofPattern h pattern
      apply h.property
      · simp [Property.types]
      · simpa [Property.patterns] using hPattern

theorem ofStatement
    (h : Hereditary P S T)
    (s : Statement) : S s := by
  match s with
  | ⟨v, ⟨entries, count⟩⟩ =>
      apply h.statement
      intro p hp
      rcases (Properties.mem_toList_iff _ p).mp hp with
        ⟨e, he, rfl⟩
      exact ofEntries h entries e he

/- What is hereditary holds of the properties of entries. -/
theorem ofEntries
    (h : Hereditary P S T)
    (entries : List Entry) :
    ∀ e ∈ entries, P e.property := by
  match entries with
  | [] =>
      simp
  | ⟨p, fingerprint⟩ :: rest =>
      have hHead : P p := ofProperty h p
      have hRest : ∀ e ∈ rest, P e.property :=
        ofEntries h rest
      simpa [hHead] using hRest

theorem ofPattern
    (h : Hereditary P S T)
    (p : Pattern) : T p := by
  match p with
  | .statement s =>
      have hStatement : S s := ofStatement h s
      apply h.pattern
      · simpa [Pattern.leaves] using hStatement
      · simp [Pattern.parts]
  | .conjunction ps | .disjunction ps =>
      have hParts : ∀ q ∈ ps, T q := ofPatterns h ps
      apply h.pattern
      · simp [Pattern.leaves]
      · exact hParts
  | .negation q =>
      have hPart : T q := ofPattern h q
      apply h.pattern
      · simp [Pattern.leaves]
      · simpa [Pattern.parts] using hPart

theorem ofPatterns
    (h : Hereditary P S T)
    (ps : List Pattern) :
    ∀ p ∈ ps, T p := by
  match ps with
  | [] =>
      simp
  | p :: rest =>
      have hHead : T p := ofPattern h p
      have hRest : ∀ q ∈ rest, T q := ofPatterns h rest
      simpa [hHead] using hRest

end

end Hereditary

/- What passes to each kind of pattern holds of all. -/
theorem Pattern.induction
    {motive : Pattern → Prop}
    (statement : ∀ s, motive (.statement s))
    (conjunction :
      ∀ ps, (∀ p ∈ ps, motive p) → motive (.conjunction ps))
    (disjunction :
      ∀ ps, (∀ p ∈ ps, motive p) → motive (.disjunction ps))
    (negation : ∀ p, motive p → motive (.negation p))
    (p : Pattern) : motive p := by
  have h :
      Hereditary (fun _ => True) (fun _ => True) motive := by
    refine ⟨fun _ _ _ => trivial, fun _ _ => trivial, ?_⟩
    intro p _ hParts
    cases p with
    | statement s =>
        exact statement s
    | conjunction ps =>
        exact conjunction ps hParts
    | disjunction ps =>
        exact disjunction ps hParts
    | negation q =>
        exact negation q (hParts q (List.mem_singleton_self q))
  exact h.ofPattern p

end GraphSchema
