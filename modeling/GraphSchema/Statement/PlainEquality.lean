import GraphSchema.Statement.Basic

/-
  This file defines equality of statements without
  fingerprints and counts: the variables agree, and every
  property of either statement equals a property of the
  other one.

  Key definitions include:
    * `Statement.plainEqual`
    * `Property.plainEqual`
    * `Pattern.plainEqual`
-/

------------------------------------------------------------
-- Plain Equality
------------------------------------------------------------

namespace GraphSchema

mutual

/-
  Properties are plainly equal when they are of one kind
  with plainly equal parts, apart from a default value.
-/
def Property.plainEqual : Property → Property → Bool
| .type l, .type m => l == m
| .abstract, .abstract => true
| .sub s direct, .sub t direct' =>
    s.plainEqual t && direct == direct'
| .has s isKey _, .has t isKey' _ =>
    s.plainEqual t && isKey == isKey'
| .plays s required, .plays t required' =>
    s.plainEqual t && required == required'
| .relates s none, .relates t none => s.plainEqual t
| .relates s (some u), .relates t (some v) =>
    s.plainEqual t && u.plainEqual v
| .datatype d, .datatype e => d == e
| .regex l, .regex m => l == m
| .premise p, .premise q => p.plainEqual q
| .conclusion p, .conclusion q => p.plainEqual q
| _, _ => false
termination_by structural p => p

/-
  Statements are plainly equal when their variables agree
  and each has an equal property for every property of the
  other.
-/
def Statement.plainEqual : Statement → Statement → Bool
| ⟨v, ⟨entries, _⟩⟩, t =>
    decide (v.Agree t.var) &&
      Entry.allEqualSome entries t.properties.newestFirst &&
      t.properties.newestFirst.all
        (fun e => Entry.someEqual entries e.property)
termination_by structural s => s

/- Each of the first entries equals one of the others. -/
def Entry.allEqualSome : List Entry → List Entry → Bool
| [], _ => true
| ⟨p, _⟩ :: entries, others =>
    others.any (fun e => p.plainEqual e.property) &&
      Entry.allEqualSome entries others
termination_by structural entries => entries

/- One of the entries equals a property. -/
def Entry.someEqual : List Entry → Property → Bool
| [], _ => false
| ⟨p, _⟩ :: entries, q =>
    p.plainEqual q || Entry.someEqual entries q
termination_by structural entries => entries

/-
  Patterns are plainly equal as trees with plainly equal
  statements.
-/
def Pattern.plainEqual : Pattern → Pattern → Bool
| .statement s, .statement t => s.plainEqual t
| .conjunction ps, .conjunction qs =>
    Pattern.allPlainEqual ps qs
| .disjunction ps, .disjunction qs =>
    Pattern.allPlainEqual ps qs
| .negation p, .negation q => p.plainEqual q
| _, _ => false
termination_by structural p => p

/- Two lists of patterns are plainly equal, one by one. -/
def Pattern.allPlainEqual : List Pattern → List Pattern → Bool
| [], [] => true
| p :: ps, q :: qs =>
    p.plainEqual q && Pattern.allPlainEqual ps qs
| _, _ => false
termination_by structural ps => ps

end

end GraphSchema
