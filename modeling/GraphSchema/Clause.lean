import GraphSchema.Argument
import GraphSchema.BuildError
import GraphSchema.Statement.Append

/-
  This file defines clauses: the steps by which statements
  are built.  A clause stands for a property, and two kinds
  of clauses may fail to do so.

  Key definitions include:
    * `Property.hasWith`
    * `Clause`
    * `Clause.property`
    * `Receiver`
    * `Receiver.withClause`
    * `Receiver.withClauses`
-/

------------------------------------------------------------
-- Owned Attributes With Arguments
------------------------------------------------------------

namespace GraphSchema

namespace Property

/-
  The property of owning an attribute with arguments.  A
  parameter that is given a value twice is an error.
-/
def hasWith
    (attributeType : Statement)
    (isKey : Bool)
    (args : List Argument) :
    Logged Event (Except BuildError Property) :=
  match Argument.defaultOf args with
  | .ok defaultValue =>
      pure (.ok (.has attributeType isKey defaultValue))
  | .error repeated => do
      Logged.record
        (.rejectingArguments isKey attributeType repeated)
      return .error (.duplicateArgument repeated)

end Property

end GraphSchema

------------------------------------------------------------
-- Clauses
------------------------------------------------------------

namespace GraphSchema

/- A step of building a statement. -/
inductive Clause where
| type (label : String)
| builtin (t : BuiltinType)
| abstract
| sub (superType : Statement)
| subDirect (superType : Statement)
| key (attributeType : Statement)
| has (attributeType : Statement)
| hasWith (attributeType : Statement) (args : List Argument)
| plays (role : Statement)
| relates (role : Statement)
| relatesAs (role superRole : Statement)
| datatype (d : DataType)
| datatypeNamed (name : String)
| regex (expression : String)
| premise (pattern : Pattern)
| conclusion (pattern : Pattern)
| constrain (p : Property)

namespace Clause

/- The property that a clause stands for. -/
def property :
    Clause → Logged Event (Except BuildError Property)
| .type label => pure (.ok (.type label))
| .builtin t => pure (.ok (.type t.text))
| .abstract => pure (.ok .abstract)
| .sub superType => pure (.ok (.sub superType false))
| .subDirect superType => pure (.ok (.sub superType true))
| .key attributeType =>
    pure (.ok (.has attributeType true none))
| .has attributeType =>
    pure (.ok (.has attributeType false none))
| .hasWith attributeType args =>
    Property.hasWith attributeType false args
| .plays role => pure (.ok (.plays role false))
| .relates role => pure (.ok (.relates role none))
| .relatesAs role superRole =>
    pure (.ok (.relates role (some superRole)))
| .datatype d => pure (.ok (.datatype d))
| .datatypeNamed name =>
    match DataType.ofAnyCase? name with
    | some d => pure (.ok (.datatype d))
    | none => pure (.error (.unknownDataType name))
| .regex expression => pure (.ok (.regex expression))
| .premise pattern => pure (.ok (.premise pattern))
| .conclusion pattern => pure (.ok (.conclusion pattern))
| .constrain p => pure (.ok p)

end Clause

end GraphSchema

------------------------------------------------------------
-- Receivers
------------------------------------------------------------

namespace GraphSchema

/-
  What clauses are applied to: a variable that no statement
  has been made on yet, or a statement.
-/
inductive Receiver where
| ofVariable (v : Variable)
| ofStatement (s : Statement)

namespace Receiver

/-
  The statement of a receiver.  That of a variable has no
  properties.
-/
def toStatement : Receiver → Statement
| .ofVariable v => .new v
| .ofStatement s => s

variable [Fingerprint]

/-
  Append a property to a receiver, which makes a statement
  of a variable.
-/
def constrain
    (r : Receiver)
    (p : Property) : Logged Event Statement :=
  match r with
  | .ofVariable v => (Statement.new v).append p
  | .ofStatement s => s.append p

/- Append the property of a clause to a receiver. -/
def withClause
    (r : Receiver)
    (c : Clause) :
    Logged Event (Except BuildError Statement) := do
  match ← c.property with
  | .error e => return .error e
  | .ok p =>
      let extended ← r.constrain p
      return .ok extended

/-
  Append the properties of clauses, one after another, up to
  the first clause that fails.
-/
def withClauses
    (r : Receiver) :
    List Clause →
      Logged Event (Except BuildError Statement)
| [] => return .ok r.toStatement
| c :: rest => do
    match ← r.withClause c with
    | .error e => return .error e
    | .ok extended => (ofStatement extended).withClauses rest

end Receiver

end GraphSchema
