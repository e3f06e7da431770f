import GraphSchema.Calendar.DateText
import GraphSchema.Double.Text
import GraphSchema.Text.Quoted

/-
  This file defines the literal values of arguments, their
  equality and their displayed texts.

  Key definitions include:
    * `Value`
    * `Value.Equal`
    * `Value.display`
-/

------------------------------------------------------------
-- Values
------------------------------------------------------------

namespace GraphSchema

/- A literal value of one of the five datatypes. -/
inductive Value where
| long (n : Int64)
| double (x : Double)
| string (s : String)
| boolean (b : Bool)
| date (t : DateTime)

namespace Value

/-
  Values are equal when they have one datatype and the same
  content.  Doubles compare as numbers: zeros are equal, and
  what is no number differs from itself.
-/
def Equal : Value → Value → Prop
| .long m, .long n => m = n
| .double x, .double y => x.Equal y
| .string s, .string t => s = t
| .boolean a, .boolean b => a = b
| .date t, .date u => t = u
| _, _ => False

instance (v w : Value) : Decidable (v.Equal w) := by
  cases v <;> cases w <;> unfold Equal <;> infer_instance

/-
  The displayed text of a value.  A double has always a
  point or a power of ten, so that it never reads as a long.
-/
def display : Value → String
| .long n => (Numeral.ofInt n.toInt).text false
| .double x => x.display
| .string s => Text.quote s
| .boolean true => "true"
| .boolean false => "false"
| .date t => t.display

end Value

end GraphSchema
