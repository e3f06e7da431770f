import GraphSchema.Proofs.WellFormed
import GraphSchema.Statement.Traversal

/-
  This file shows what a traversal visits: whatever passes
  from a statement to the statements nested in it holds of
  all visited statements, and a change of statements that
  respects nesting changes the visited ones one by one.

  Key theorems include:
    * `Statement.forall_mem_visit`
    * `Statement.visit_map`
    * `Statement.Built.of_mem_innerStatements`
-/

------------------------------------------------------------
-- Visited Statements
------------------------------------------------------------

namespace GraphSchema

namespace Statement

/- What passes to nested statements holds of visited ones. -/
theorem forall_mem_visit
    {P : Statement → Prop}
    (hNested : ∀ s, P s → ∀ t ∈ s.nested, P t)
    {stack : List Statement}
    (hStack : ∀ s ∈ stack, P s) :
    ∀ s ∈ visit stack, P s := by
  fun_induction visit stack with
  | case1 =>
      exact hStack
  | case2 s pending ih =>
      rcases List.forall_mem_cons.mp hStack with
        ⟨hs, hPending⟩
      refine List.forall_mem_cons.mpr ⟨hs, ih ?_⟩
      intro t ht
      rcases List.mem_append.mp ht with ht | ht
      · exact hNested s hs t ht
      · exact hPending t ht

/- A change that respects nesting changes what is visited. -/
theorem visit_map
    {f : Statement → Statement}
    (hNested : ∀ s, (f s).nested = s.nested.map f)
    (stack : List Statement) :
    visit (stack.map f) = (visit stack).map f := by
  fun_induction visit stack with
  | case1 =>
      simp [visit]
  | case2 s pending ih =>
      rw [List.map_cons, visit, hNested, ← List.map_append,
        ih, List.map_cons]

end Statement

end GraphSchema

------------------------------------------------------------
-- Built Statements
------------------------------------------------------------

namespace GraphSchema

variable [Fingerprint]

theorem Pattern.Built.of_mem_statements
    {p : Pattern}
    {s : Statement}
    (hp : p.Built)
    (hs : s ∈ p.statements) : s.Built := by
  match p, hp with
  | _, .statement h =>
      rw [Pattern.statements, List.mem_singleton] at hs
      rw [hs]
      exact h
  | _, .conjunction h | _, .disjunction h =>
      rw [Pattern.statements, listStatements_eq_flatMap,
        List.mem_flatMap] at hs
      rcases hs with ⟨q, hq, hs⟩
      exact (h q hq).of_mem_statements hs
  | _, .negation h =>
      rw [Pattern.statements] at hs
      exact h.of_mem_statements hs

theorem Statement.Built.of_mem_nested
    {s t : Statement}
    (hs : s.Built)
    (ht : t ∈ s.nested) : t.Built := by
  rcases List.mem_flatMap.mp ht with ⟨p, hMem, ht⟩
  have hp : p.Built := hs.of_mem_toList hMem
  rw [Property.statements_eq_append, List.mem_append,
    List.mem_flatMap] at ht
  rcases ht with ht | ⟨pattern, hPattern, ht⟩
  · exact hp.of_mem_types ht
  · exact (hp.of_mem_patterns hPattern).of_mem_statements ht

/- All statements inside of a built one are built. -/
theorem Statement.Built.of_mem_innerStatements
    {s t : Statement}
    (hs : s.Built)
    (ht : t ∈ s.innerStatements) : t.Built := by
  apply forall_mem_visit (fun _ h _ => h.of_mem_nested) _ t ht
  intro u hu
  rw [List.mem_singleton.mp hu]
  exact hs

end GraphSchema
