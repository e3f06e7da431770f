import GraphSchema.Statement.Text

/-
  This file defines the events of building statements and
  the lines that report them.

  Key definitions include:
    * `Event`
    * `Event.message`
    * `Event.line`
-/

------------------------------------------------------------
-- Events
------------------------------------------------------------

namespace GraphSchema

/-
  An event: a property is appended to the statement on a
  variable, it is skipped because an equal one is there, or
  the arguments of an owned attribute are rejected because
  of a repeated parameter.
-/
inductive Event where
| appending (p : Property) (v : Variable)
| skippingDuplicate (p : Property)
| rejectingArguments
    (isKey : Bool)
    (attributeType : Statement)
    (repeated : Parameter)

/- How much attention an event deserves. -/
inductive EventLevel where
| trace
| debug
deriving DecidableEq, Repr

namespace EventLevel

/- The written form of a level. -/
def text : EventLevel → String
| .trace => "TRACE"
| .debug => "DEBUG"

end EventLevel

namespace Event

/- The level of an event. -/
def level : Event → EventLevel
| .appending _ _ => .trace
| .skippingDuplicate _ => .trace
| .rejectingArguments _ _ _ => .debug

/- The message of an event. -/
def message : Event → String
| .appending p v =>
    "Appending `" ++ p.text ++ "` to " ++ v.text
| .skippingDuplicate p =>
    "Skipping duplicate property `" ++ p.text ++ "`"
| .rejectingArguments isKey attributeType repeated =>
    let keyword : Keyword := if isKey then .key else .has
    "Rejecting " ++ keyword.text ++ " "
      ++ attributeType.printableName ++ ": argument `"
      ++ repeated.text ++ "` given twice"

/- The line that reports an event. -/
def line (e : Event) : String :=
  e.level.text ++ " " ++ e.message

end Event

end GraphSchema
