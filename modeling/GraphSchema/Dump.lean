import GraphSchema.Value
import GraphSchema.Variable

/-
  This file defines dumps: texts that show how a value is put
  together, with the names of its constructors and parts.

  Key definitions include:
    * `Dump`
    * `Dump.literal`
    * `Dump.text`
    * `Variable.dump`
    * `Value.dump`
-/

------------------------------------------------------------
-- Dumps
------------------------------------------------------------

namespace GraphSchema

/-
  A dump is a finished text, a constructor with positional
  parts, a record with named parts, or a list.
-/
inductive Dump where
| atom (text : String)
| tuple (name : String) (parts : List Dump)
| record (name : String) (parts : List (String × Dump))
| list (items : List Dump)

namespace Dump

/- A truth value in a dump. -/
def flag (b : Bool) : Dump :=
  .atom (if b then "true" else "false")

/- An optional value in a dump. -/
def option : Option Dump → Dump
| none => .atom "None"
| some d => .tuple "Some" [d]

end Dump

end GraphSchema

------------------------------------------------------------
-- Literals in Dumps
------------------------------------------------------------

namespace GraphSchema

namespace Dump

/- The hexadecimal digits of a number below 256. -/
def hexDigits (n : Nat) : List Char :=
  if n < 16 then
    Nat.toDigits 16 n
  else
    Nat.toDigits 16 (n / 16) ++ Nat.toDigits 16 (n % 16)

/-
  A character in a literal of a dump.  The controls of ASCII
  are escaped by a letter or by their code.
-/
def escapeChar (c : Char) : List Char :=
  if c = '"' ∨ c = '\\' then ['\\', c]
  else if c = '\x00' then ['\\', '0']
  else if c = '\t' then ['\\', 't']
  else if c = '\n' then ['\\', 'n']
  else if c = '\r' then ['\\', 'r']
  else if c.toNat < 0x20 ∨ c.toNat = 0x7F then
    ['\\', 'u', '\x7b'] ++ hexDigits c.toNat ++ ['\x7d']
  else
    [c]

/- The literal of a text in a dump. -/
def literal (s : String) : Dump :=
  .atom
    ("\"" ++ String.ofList (s.toList.flatMap escapeChar)
      ++ "\"")

end Dump

end GraphSchema

------------------------------------------------------------
-- Texts of Dumps
------------------------------------------------------------

namespace GraphSchema

namespace Dump

mutual

/- The text of a dump, on a single line. -/
def text : Dump → String
| .atom s => s
| .tuple name parts =>
    name ++ "(" ++ String.intercalate ", " (texts parts)
      ++ ")"
| .record name parts =>
    name ++ " \x7b "
      ++ String.intercalate ", " (partTexts parts) ++ " \x7d"
| .list items =>
    "[" ++ String.intercalate ", " (texts items) ++ "]"
termination_by structural d => d

/- The texts of several dumps. -/
def texts : List Dump → List String
| [] => []
| d :: ds => d.text :: texts ds
termination_by structural ds => ds

/- The texts of named parts. -/
def partTexts : List (String × Dump) → List String
| [] => []
| (name, d) :: parts =>
    (name ++ ": " ++ d.text) :: partTexts parts
termination_by structural parts => parts

end

end Dump

end GraphSchema

------------------------------------------------------------
-- Dumps of Variables and Values
------------------------------------------------------------

namespace GraphSchema

namespace Variable

/- The dump of a variable. -/
def dump (v : Variable) : Dump :=
  let kind :=
    match v.kind with
    | .userDefined => "UserDefined"
    | .anonymous => "Anonymous"
  .record "Variable" [
    ("name", Dump.literal v.name),
    ("kind", .atom kind)]

end Variable

namespace DataType

/- The dump of a datatype. -/
def dump : DataType → Dump
| .long => .atom "Long"
| .double => .atom "Double"
| .string => .atom "String"
| .boolean => .atom "Boolean"
| .date => .atom "Date"

end DataType

namespace Value

/- The dump of a value.  A date loses nothing. -/
def dump : Value → Dump
| .long n =>
    .tuple "Long" [.atom ((Value.long n).display)]
| .double x => .tuple "Double" [.atom x.display]
| .string s => .tuple "String" [Dump.literal s]
| .boolean b => .tuple "Boolean" [Dump.flag b]
| .date t => .tuple "Date" [.atom t.exactText]

end Value

end GraphSchema
