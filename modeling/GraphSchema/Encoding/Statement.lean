import GraphSchema.Encoding.Basic
import GraphSchema.Statement.Basic

/-
  This file defines the document forms of statements,
  properties and patterns.

  Key definitions include:
    * `Statement.toJson`
    * `Property.toJson`
    * `Pattern.toJson`
-/

------------------------------------------------------------
-- Documents of Statements
------------------------------------------------------------

namespace GraphSchema

/-
  The document of a property: its kind first, and then its
  parts.  A part that is absent is left out.
-/
def propertyObject
    (kind : String)
    (parts : List (String × Json)) : Json :=
  .object (("property", .string kind) :: parts)

mutual

/- The document of a property. -/
def Property.toJson : Property → Json
| .type label =>
    propertyObject "type" [("label", .string label)]
| .abstract => propertyObject "abstract" []
| .sub s direct =>
    propertyObject "sub" [
      ("super_type", s.toJson),
      ("explicit", .bool direct)]
| .has s isKey none =>
    propertyObject "has_attribute_type" [
      ("attribute_type", s.toJson),
      ("is_key", .bool isKey)]
| .has s isKey (some v) =>
    propertyObject "has_attribute_type" [
      ("attribute_type", s.toJson),
      ("is_key", .bool isKey),
      ("default_value", v.toJson)]
| .plays s required =>
    propertyObject "plays" [
      ("role", s.toJson),
      ("required", .bool required)]
| .relates s none =>
    propertyObject "relates" [("role", s.toJson)]
| .relates s (some t) =>
    propertyObject "relates" [
      ("role", s.toJson),
      ("super_role", t.toJson)]
| .datatype d =>
    propertyObject "data_type" [
      ("data_type", Vocabulary.toJson d)]
| .regex expression =>
    propertyObject "regex" [("regex", .string expression)]
| .premise p =>
    propertyObject "when" [("pattern", p.toJson)]
| .conclusion p =>
    propertyObject "then" [("pattern", p.toJson)]
termination_by structural p => p

/- The document of a statement. -/
def Statement.toJson : Statement → Json
| ⟨v, ⟨entries, _⟩⟩ =>
    .object [
      ("var", v.toJson),
      ("properties", .array (Entry.toJsons entries).reverse)]
termination_by structural s => s

/- The documents of entries, in the order of the entries. -/
def Entry.toJsons : List Entry → List Json
| [] => []
| ⟨p, _⟩ :: entries => p.toJson :: Entry.toJsons entries
termination_by structural entries => entries

/- The document of a pattern. -/
def Pattern.toJson : Pattern → Json
| .statement s => .object [("statement", s.toJson)]
| .conjunction ps =>
    .object [("conjunction", .array (Pattern.toJsons ps))]
| .disjunction ps =>
    .object [("disjunction", .array (Pattern.toJsons ps))]
| .negation p => .object [("negation", p.toJson)]
termination_by structural p => p

/- The documents of several patterns. -/
def Pattern.toJsons : List Pattern → List Json
| [] => []
| p :: ps => p.toJson :: Pattern.toJsons ps
termination_by structural ps => ps

end

end GraphSchema
