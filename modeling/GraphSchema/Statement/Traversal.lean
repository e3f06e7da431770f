import GraphSchema.Statement.Basic

/-
  This file defines the traversal of the statements inside a
  statement.  Statements that are still to be visited wait on
  a stack, so that a statement comes before the statements
  that its properties refer to.

  Key definitions include:
    * `Statement.size`
    * `Statement.visit`
    * `Statement.innerStatements`
    * `Statement.listing`

  Key theorems include:
    * `Statement.size_eq`
    * `Statement.stackSize_nested_lt`
-/

------------------------------------------------------------
-- Sizes
------------------------------------------------------------

namespace GraphSchema

mutual

/- The number of statements in a property. -/
def Property.size : Property → Nat
| .sub s _ => s.size
| .has s _ _ => s.size
| .plays s _ => s.size
| .relates s none => s.size
| .relates s (some t) => s.size + t.size
| .premise p => p.size
| .conclusion p => p.size
| _ => 0
termination_by structural p => p

/- The number of statements in a statement, with itself. -/
def Statement.size : Statement → Nat
| ⟨_, ⟨entries, _⟩⟩ => Entry.totalSize entries + 1
termination_by structural s => s

/- The number of statements in entries. -/
def Entry.totalSize : List Entry → Nat
| [] => 0
| ⟨p, _⟩ :: entries => p.size + Entry.totalSize entries
termination_by structural entries => entries

/- The number of statements in a pattern. -/
def Pattern.size : Pattern → Nat
| .statement s => s.size
| .conjunction ps => Pattern.totalSize ps
| .disjunction ps => Pattern.totalSize ps
| .negation p => p.size
termination_by structural p => p

/- The number of statements in several patterns. -/
def Pattern.totalSize : List Pattern → Nat
| [] => 0
| p :: ps => p.size + Pattern.totalSize ps
termination_by structural ps => ps

end

namespace Statement

/- The number of statements in all statements of a stack. -/
def stackSize : List Statement → Nat
| [] => 0
| s :: stack => s.size + stackSize stack

end Statement

end GraphSchema

------------------------------------------------------------
-- Sizes of Nested Statements
------------------------------------------------------------

namespace GraphSchema

namespace Statement

/- The sizes of two stacks add up. -/
theorem stackSize_append
    (xs ys : List Statement) :
    stackSize (xs ++ ys) = stackSize xs + stackSize ys := by
  induction xs with
  | nil =>
      simp [stackSize]
  | cons s xs ih =>
      simp only [List.cons_append, stackSize, ih]
      omega

end Statement

namespace Pattern

mutual

/- A pattern has the size of its statements. -/
theorem stackSize_statements (p : Pattern) :
    Statement.stackSize p.statements = p.size := by
  match p with
  | .statement s =>
      simp [statements, size, Statement.stackSize]
  | .conjunction ps =>
      simp only [statements, size]
      exact stackSize_listStatements ps
  | .disjunction ps =>
      simp only [statements, size]
      exact stackSize_listStatements ps
  | .negation q =>
      simp only [statements, size]
      exact stackSize_statements q

/- Several patterns have the size of their statements. -/
theorem stackSize_listStatements (ps : List Pattern) :
    Statement.stackSize (listStatements ps) =
      totalSize ps := by
  match ps with
  | [] =>
      simp [listStatements, totalSize, Statement.stackSize]
  | p :: rest =>
      simp only [listStatements, totalSize,
        Statement.stackSize_append]
      rw [stackSize_statements p,
        stackSize_listStatements rest]

end

end Pattern

namespace Property

/- A property has the size of its statements. -/
theorem stackSize_statements (p : Property) :
    Statement.stackSize p.statements = p.size := by
  cases p with
  | relates s superRole =>
      cases superRole <;>
        simp [statements, types, size, Statement.stackSize]
  | premise q =>
      exact q.stackSize_statements
  | conclusion q =>
      exact q.stackSize_statements
  | _ =>
      simp [statements, types, size, Statement.stackSize]

end Property

namespace Statement

private theorem stackSize_flatMap_reverse
    (entries : List Entry) :
    stackSize
        ((entries.map Entry.property).reverse.flatMap
          Property.statements) =
      Entry.totalSize entries := by
  induction entries with
  | nil =>
      simp [Entry.totalSize, stackSize]
  | cons e rest ih =>
      obtain ⟨p, fingerprint⟩ := e
      simp only [List.map_cons, List.reverse_cons,
        List.flatMap_append, List.flatMap_cons,
        List.flatMap_nil, List.append_nil,
        stackSize_append, ih, Entry.totalSize,
        Property.stackSize_statements]
      omega

/- A statement counts itself and what is nested in it. -/
theorem size_eq (s : Statement) :
    s.size = stackSize s.nested + 1 := by
  obtain ⟨v, entries, count⟩ := s
  simp only [nested, Properties.toList,
    stackSize_flatMap_reverse, size]

/-
  The nested statements of a statement are smaller than the
  statement, even all together.
-/
theorem stackSize_nested_lt (s : Statement) :
    stackSize s.nested < s.size := by
  rw [s.size_eq]
  exact Nat.lt_succ_self _

end Statement

end GraphSchema

------------------------------------------------------------
-- Traversal
------------------------------------------------------------

namespace GraphSchema

namespace Statement

/-
  Visit the statements of a stack from its top.  The
  statements nested in a visited one go on top of the stack,
  the first of them uppermost.
-/
def visit : List Statement → List Statement
| [] => []
| s :: pending => s :: visit (s.nested ++ pending)
termination_by stack => stackSize stack
decreasing_by
  have hNested := s.stackSize_nested_lt
  simp only [stackSize_append, stackSize]
  omega

/-
  A statement followed by the statements nested in its
  properties, depth first.
-/
def innerStatements (s : Statement) : List Statement :=
  visit [s]

end Statement

end GraphSchema

------------------------------------------------------------
-- Listings
------------------------------------------------------------

namespace GraphSchema

mutual

/- The listings of the statements of a property. -/
def Property.listing : Property → List Statement
| .sub s _ => s.listing
| .has s _ _ => s.listing
| .plays s _ => s.listing
| .relates s none => s.listing
| .relates s (some t) => s.listing ++ t.listing
| .premise p => p.listing
| .conclusion p => p.listing
| _ => []
termination_by structural p => p

/-
  The listing of a statement: the statement itself, followed
  by the listings of the statements of its properties.
-/
def Statement.listing : Statement → List Statement
| ⟨v, ⟨entries, count⟩⟩ =>
    ⟨v, ⟨entries, count⟩⟩ ::
      (Entry.listings entries).reverse.flatten
termination_by structural s => s

/- The listing of each entry, in the order of the entries. -/
def Entry.listings : List Entry → List (List Statement)
| [] => []
| ⟨p, _⟩ :: entries => p.listing :: Entry.listings entries
termination_by structural entries => entries

/- The listings of the statements of a pattern. -/
def Pattern.listing : Pattern → List Statement
| .statement s => s.listing
| .conjunction ps => Pattern.listListing ps
| .disjunction ps => Pattern.listListing ps
| .negation p => p.listing
termination_by structural p => p

/- The listings of the statements of several patterns. -/
def Pattern.listListing : List Pattern → List Statement
| [] => []
| p :: ps => p.listing ++ Pattern.listListing ps
termination_by structural ps => ps

end

end GraphSchema
