import GraphSchema.Statement.Append

/-
  This file defines the statements, properties and patterns
  that can be built: statements start without properties and
  grow by appending, and all parts of a property or pattern
  have been built before.

  Key definitions include:
    * `Statement.Built`
    * `Property.Built`
    * `Pattern.Built`

  Key theorems include:
    * `Statement.built_appendAll`
-/

------------------------------------------------------------
-- Built Statements
------------------------------------------------------------

namespace GraphSchema

mutual

/- A property with built parts. -/
inductive Property.Built [Fingerprint] :
    Property → Prop where
| type (label : String) :
    Property.Built (.type label)
| abstract :
    Property.Built .abstract
| sub {s : Statement} (direct : Bool) :
    Statement.Built s →
    Property.Built (.sub s direct)
| has
    {s : Statement}
    (isKey : Bool)
    (defaultValue : Option Value) :
    Statement.Built s →
    Property.Built (.has s isKey defaultValue)
| plays {s : Statement} (required : Bool) :
    Statement.Built s →
    Property.Built (.plays s required)
| relates {s : Statement} :
    Statement.Built s →
    Property.Built (.relates s none)
| relatesAs {s t : Statement} :
    Statement.Built s →
    Statement.Built t →
    Property.Built (.relates s (some t))
| datatype (d : DataType) :
    Property.Built (.datatype d)
| regex (expression : String) :
    Property.Built (.regex expression)
| premise {p : Pattern} :
    Pattern.Built p →
    Property.Built (.premise p)
| conclusion {p : Pattern} :
    Pattern.Built p →
    Property.Built (.conclusion p)

/- A statement that is the result of appending. -/
inductive Statement.Built [Fingerprint] :
    Statement → Prop where
| new (v : Variable) :
    Statement.Built (.new v)
| append {s : Statement} {p : Property} :
    Statement.Built s →
    Property.Built p →
    Statement.Built (s.append p).value

/- A pattern of built statements. -/
inductive Pattern.Built [Fingerprint] :
    Pattern → Prop where
| statement {s : Statement} :
    Statement.Built s →
    Pattern.Built (.statement s)
| conjunction {ps : List Pattern} :
    (∀ p ∈ ps, Pattern.Built p) →
    Pattern.Built (.conjunction ps)
| disjunction {ps : List Pattern} :
    (∀ p ∈ ps, Pattern.Built p) →
    Pattern.Built (.disjunction ps)
| negation {p : Pattern} :
    Pattern.Built p →
    Pattern.Built (.negation p)

end

end GraphSchema

------------------------------------------------------------
-- Building by Appending
------------------------------------------------------------

namespace GraphSchema

namespace Statement

variable [Fingerprint]

/- Appending built properties keeps a statement built. -/
theorem built_appendAll
    {s : Statement}
    {ps : List Property}
    (hs : s.Built)
    (hps : ∀ p ∈ ps, p.Built) :
    (s.appendAll ps).value.Built := by
  induction ps generalizing s with
  | nil =>
      exact hs
  | cons p rest ih =>
      have hp : p.Built :=
        hps p (List.mem_cons_self ..)
      have hRest : ∀ q ∈ rest, q.Built := by
        intro q hq
        exact hps q (List.mem_cons_of_mem p hq)
      exact ih (.append hs hp) hRest

end Statement

end GraphSchema
