import GraphSchema.Elementwise
import GraphSchema.Value
import GraphSchema.Variable

/-
  This file defines schema statements.  A statement is a
  variable with properties.  A property may refer to further
  statements, and the premise and the conclusion of a rule
  are patterns of statements.

  Key definitions include:
    * `Property`
    * `Properties`
    * `Statement`
    * `Pattern`
    * `Properties.toList`
    * `Property.keyword`
    * `Property.IsUnique`
    * `Property.types`
    * `Pattern.statements`
    * `Property.statements`
    * `Statement.label`
-/

------------------------------------------------------------
-- Statements, Properties and Patterns
------------------------------------------------------------

namespace GraphSchema

mutual

/-
  A constraint on the variable of a statement.
    * `type` gives the type its label.
    * `abstract` forbids direct instances.
    * `sub` names a super type, which has to be the next one
      if the property is direct.
    * `has` names an attribute type that the type owns, as a
      key or not, perhaps with a default value.
    * `plays` names a role that instances may play, or have
      to play.
    * `relates` declares a role, perhaps one that specialises
      another role.
    * `datatype` and `regex` constrain attribute values.
    * `premise` and `conclusion` make up a rule.
-/
inductive Property where
| type (label : String)
| abstract
| sub (superType : Statement) (direct : Bool)
| has
    (attributeType : Statement)
    (isKey : Bool)
    (defaultValue : Option Value)
| plays (role : Statement) (required : Bool)
| relates (role : Statement) (superRole : Option Statement)
| datatype (d : DataType)
| regex (expression : String)
| premise (pattern : Pattern)
| conclusion (pattern : Pattern)

/- A property together with its fingerprint. -/
structure Entry where
  property : Property
  fingerprint : UInt64

/-
  The properties of a statement, newest first, and how many
  they are.
-/
structure Properties where
  newestFirst : List Entry
  count : Nat

/- A variable together with its properties. -/
structure Statement where
  var : Variable
  properties : Properties

/- A logical combination of statements. -/
inductive Pattern where
| statement (s : Statement)
| conjunction (patterns : List Pattern)
| disjunction (patterns : List Pattern)
| negation (pattern : Pattern)

end

end GraphSchema

------------------------------------------------------------
-- Views of Properties
------------------------------------------------------------

namespace GraphSchema

namespace Properties

/- No properties at all. -/
def empty : Properties where
  newestFirst := []
  count := 0

/- The properties in the order of their insertion. -/
def toList (ps : Properties) : List Property :=
  (ps.newestFirst.map Entry.property).reverse

/- There are no properties. -/
def IsEmpty (ps : Properties) : Prop :=
  ps.count = 0

instance (ps : Properties) : Decidable ps.IsEmpty := by
  unfold IsEmpty
  infer_instance

end Properties

namespace Property

/- The keyword that a property is written with. -/
def keyword : Property → Keyword
| .type _ => .type
| .abstract => .abstract
| .sub _ direct => if direct then .subDirect else .sub
| .has _ isKey _ => if isKey then .key else .has
| .plays _ _ => .plays
| .relates _ _ => .relates
| .datatype _ => .datatype
| .regex _ => .regex
| .premise _ => .premise
| .conclusion _ => .conclusion

/-
  A statement is meant to have at most one property of this
  kind.
-/
def IsUnique : Property → Prop
| .has _ _ _ => False
| .plays _ _ => False
| .relates _ _ => False
| _ => True

instance (p : Property) : Decidable p.IsUnique := by
  cases p <;> unfold IsUnique <;> infer_instance

/- The type statements that a property refers to. -/
def types : Property → List Statement
| .sub superType _ => [superType]
| .has attributeType _ _ => [attributeType]
| .plays role _ => [role]
| .relates role superRole => role :: superRole.toList
| _ => []

end Property

end GraphSchema

------------------------------------------------------------
-- Statements Inside Patterns and Properties
------------------------------------------------------------

namespace GraphSchema

namespace Pattern

mutual

/- The statements of a pattern, from left to right. -/
def statements : Pattern → List Statement
| .statement s => [s]
| .conjunction patterns => listStatements patterns
| .disjunction patterns => listStatements patterns
| .negation pattern => pattern.statements
termination_by structural p => p

/- The statements of several patterns, from left to right. -/
def listStatements : List Pattern → List Statement
| [] => []
| p :: ps => p.statements ++ listStatements ps
termination_by structural ps => ps

end

/- Several patterns have the statements of each of them. -/
theorem listStatements_eq_flatMap (ps : List Pattern) :
    listStatements ps = ps.flatMap statements := by
  apply eq_flatMap_of_cons rfl
  intro p ps
  rw [listStatements]

/- A pattern is a conjunction. -/
def IsConjunction : Pattern → Prop
| .conjunction _ => True
| _ => False

instance (p : Pattern) : Decidable p.IsConjunction := by
  cases p <;> unfold IsConjunction <;> infer_instance

end Pattern

namespace Property

/-
  Every statement that a property refers to, including the
  statements of rule patterns.
-/
def statements : Property → List Statement
| .premise pattern => pattern.statements
| .conclusion pattern => pattern.statements
| p => p.types

end Property

end GraphSchema

------------------------------------------------------------
-- Statements
------------------------------------------------------------

namespace GraphSchema

namespace Statement

/- The statement on a variable without properties. -/
def new (v : Variable) : Statement where
  var := v
  properties := .empty

/- The label that a property gives. -/
def labelOf? : Property → Option String
| .type label => some label
| _ => none

@[simp]
theorem labelOf?_eq_some_iff
    {p : Property}
    {label : String} :
    labelOf? p = some label ↔ p = .type label := by
  cases p <;> simp [labelOf?]

@[simp]
theorem labelOf?_eq_none_iff {p : Property} :
    labelOf? p = none ↔ ∀ label, p ≠ .type label := by
  cases p <;> simp [labelOf?]

/- The label given by the first property that gives one. -/
def label (s : Statement) : Option String :=
  s.properties.toList.findSome? labelOf?

/- The statements that the properties refer to, in order. -/
def nested (s : Statement) : List Statement :=
  s.properties.toList.flatMap Property.statements

end Statement

end GraphSchema
