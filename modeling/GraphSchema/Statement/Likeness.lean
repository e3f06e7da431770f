import GraphSchema.Encoding.Statement

/-
  This file defines when statements, properties and patterns
  are alike: identical at every depth, names of anonymous
  variables and default values included.  Only doubles are
  told apart no further than by their documents, and dates
  no further than by what they are carried to.

  Key definitions include:
    * `Value.Alike`
    * `Statement.Alike`
    * `Property.Alike`
    * `Pattern.Alike`
-/

------------------------------------------------------------
-- Alike Values
------------------------------------------------------------

namespace GraphSchema

/-
  Doubles are alike when they are written alike, dates when
  they are carried to the same date, and other values when
  they are the same.
-/
def Value.Alike : Value → Value → Prop
| .double x, .double y =>
    (Value.double x).toJson.text =
      (Value.double y).toJson.text
| .date t, .date u => t.carried = u.carried
| v, w => v = w

end GraphSchema

------------------------------------------------------------
-- Alike Statements
------------------------------------------------------------

namespace GraphSchema

mutual

/-
  Properties are alike when they are of one kind with the
  same labels and flags and with alike parts, and when both
  or none of them have a default value or a super role.
-/
def Property.Alike : Property → Property → Prop
| .type l, .type m => l = m
| .abstract, .abstract => True
| .sub s direct, .sub t direct' =>
    s.Alike t ∧ direct = direct'
| .has s isKey none, .has t isKey' none =>
    s.Alike t ∧ isKey = isKey'
| .has s isKey (some v), .has t isKey' (some w) =>
    s.Alike t ∧ isKey = isKey' ∧ v.Alike w
| .plays s required, .plays t required' =>
    s.Alike t ∧ required = required'
| .relates s none, .relates t none => s.Alike t
| .relates s (some u), .relates t (some v) =>
    s.Alike t ∧ u.Alike v
| .datatype d, .datatype e => d = e
| .regex l, .regex m => l = m
| .premise p, .premise q => p.Alike q
| .conclusion p, .conclusion q => p.Alike q
| _, _ => False
termination_by structural p => p

/-
  Statements are alike when they are on the same variable
  and have alike properties in the same order.
-/
def Statement.Alike : Statement → Statement → Prop
| ⟨v, ⟨entries, _⟩⟩, t =>
    v = t.var ∧
      Entry.AllAlike entries t.properties.newestFirst
termination_by structural s => s

/- Entries have alike properties, one by one. -/
def Entry.AllAlike : List Entry → List Entry → Prop
| [], [] => True
| ⟨p, _⟩ :: entries, e :: others =>
    p.Alike e.property ∧ Entry.AllAlike entries others
| _, _ => False
termination_by structural entries => entries

/- Patterns are alike as trees with alike statements. -/
def Pattern.Alike : Pattern → Pattern → Prop
| .statement s, .statement t => s.Alike t
| .conjunction ps, .conjunction qs =>
    Pattern.AllAlike ps qs
| .disjunction ps, .disjunction qs =>
    Pattern.AllAlike ps qs
| .negation p, .negation q => p.Alike q
| _, _ => False
termination_by structural p => p

/- Several patterns are alike, one by one. -/
def Pattern.AllAlike : List Pattern → List Pattern → Prop
| [], [] => True
| p :: ps, q :: qs => p.Alike q ∧ Pattern.AllAlike ps qs
| _, _ => False
termination_by structural ps => ps

end

end GraphSchema
