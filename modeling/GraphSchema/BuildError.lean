import GraphSchema.Vocabulary

/-
  This file defines the two causes for which building a
  statement fails, and the message of each.

  Key definitions include:
    * `BuildError`
    * `BuildError.message`
-/

------------------------------------------------------------
-- Build Errors
------------------------------------------------------------

namespace GraphSchema

/-
  An owned attribute was given two arguments for one
  parameter, or a text names no datatype.
-/
inductive BuildError where
| duplicateArgument (parameter : Parameter)
| unknownDataType (text : String)
deriving DecidableEq, Repr

namespace BuildError

/- The message that reports a cause to the user. -/
def message : BuildError → String
| .duplicateArgument p =>
    "has/key property only accepts unique arguments, got `"
      ++ p.text ++ "` more than once"
| .unknownDataType s =>
    "Unknown datatype: " ++ s

end BuildError

end GraphSchema
