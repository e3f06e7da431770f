import GraphSchema.Value
import GraphSchema.Vocabulary

/-
  This file defines the optional arguments of an owned
  attribute.  An argument gives a value to a parameter, and
  no parameter may be given a value twice.

  Key definitions include:
    * `Argument`
    * `Argument.display`
    * `Argument.defaultOf`
-/

------------------------------------------------------------
-- Arguments
------------------------------------------------------------

namespace GraphSchema

/- An argument is a parameter with its value. -/
structure Argument where
  parameter : Parameter
  value : Value

namespace Argument

/- The argument that supplies a default value. -/
def ofDefault (v : Value) : Argument where
  parameter := .default
  value := v

/- The argument that supplies a description. -/
def ofDescription (s : String) : Argument where
  parameter := .description
  value := .string s

/- The displayed text of an argument. -/
def display (a : Argument) : String :=
  a.parameter.text ++ ": " ++ a.value.display

end Argument

end GraphSchema

------------------------------------------------------------
-- Default Values
------------------------------------------------------------

namespace GraphSchema

namespace Argument

/- The default value after one more argument. -/
def updateDefault
    (found : Option Value)
    (a : Argument) : Option Value :=
  match a.parameter with
  | .default => some a.value
  | .description => found

/-
  Go through arguments from the left, knowing the parameters
  that are already taken and the default value found so far.
  The first argument whose parameter is taken is an error.
-/
def collectDefault
    (taken : List Parameter)
    (found : Option Value) :
    List Argument → Except Parameter (Option Value)
| [] => .ok found
| a :: rest =>
    if a.parameter ∈ taken then
      .error a.parameter
    else
      collectDefault (a.parameter :: taken)
        (updateDefault found a) rest

/-
  The default value that a list of arguments supplies, or
  the first parameter that is given a value again.
-/
def defaultOf
    (args : List Argument) :
    Except Parameter (Option Value) :=
  collectDefault [] none args

end Argument

end GraphSchema
