import GraphSchema.Dump
import GraphSchema.Statement.Basic

/-
  This file defines the dumps of statements, properties and
  patterns.

  Key definitions include:
    * `Statement.dump`
    * `Property.dump`
    * `Pattern.dump`
    * `Properties.dump`
-/

------------------------------------------------------------
-- Dumps of Statements
------------------------------------------------------------

namespace GraphSchema

/- The dump of a statement that is known to be a type. -/
def typeDump (statement : Dump) : Dump :=
  .tuple "StatementType" [statement]

/-
  The dump of a property: its kind, around a record of its
  parts.
-/
def propertyDump
    (kind : String)
    (parts : List (String × Dump)) : Dump :=
  .tuple kind [.record (kind ++ "Property") parts]

mutual

/- The dump of a property. -/
def Property.dump : Property → Dump
| .type label =>
    propertyDump "Type" [("label", Dump.literal label)]
| .abstract => .atom "Abstract"
| .sub s direct =>
    propertyDump "Sub" [
      ("super_type", typeDump s.dump),
      ("explicit", Dump.flag direct)]
| .has s isKey defaultValue =>
    propertyDump "HasAttributeType" [
      ("attribute_type", typeDump s.dump),
      ("is_key", Dump.flag isKey),
      ("default_value",
        Dump.option (defaultValue.map Value.dump))]
| .plays s required =>
    propertyDump "Plays" [
      ("role", typeDump s.dump),
      ("required", Dump.flag required)]
| .relates s none =>
    propertyDump "Relates" [
      ("role", typeDump s.dump),
      ("super_role", Dump.option none)]
| .relates s (some t) =>
    propertyDump "Relates" [
      ("role", typeDump s.dump),
      ("super_role", Dump.option (some (typeDump t.dump)))]
| .datatype d =>
    propertyDump "DataType" [("data_type", d.dump)]
| .regex expression =>
    propertyDump "Regex" [("regex", Dump.literal expression)]
| .premise p => propertyDump "When" [("pattern", p.dump)]
| .conclusion p => propertyDump "Then" [("pattern", p.dump)]
termination_by structural p => p

/- The dump of a statement. -/
def Statement.dump : Statement → Dump
| ⟨v, ⟨entries, _⟩⟩ =>
    .record "Statement" [
      ("var", v.dump),
      ("properties", .list (Entry.dumps entries).reverse)]
termination_by structural s => s

/- The dumps of entries, in the order of the entries. -/
def Entry.dumps : List Entry → List Dump
| [] => []
| ⟨p, _⟩ :: entries => p.dump :: Entry.dumps entries
termination_by structural entries => entries

/- The dump of a pattern. -/
def Pattern.dump : Pattern → Dump
| .statement s => .tuple "Statement" [s.dump]
| .conjunction ps =>
    .tuple "Conjunction" [.list (Pattern.dumps ps)]
| .disjunction ps =>
    .tuple "Disjunction" [.list (Pattern.dumps ps)]
| .negation p => .tuple "Negation" [p.dump]
termination_by structural p => p

/- The dumps of several patterns. -/
def Pattern.dumps : List Pattern → List Dump
| [] => []
| p :: ps => p.dump :: Pattern.dumps ps
termination_by structural ps => ps

end

namespace Properties

/- The dump of the properties of a statement. -/
def dump (ps : Properties) : Dump :=
  .list (Entry.dumps ps.newestFirst).reverse

end Properties

end GraphSchema
