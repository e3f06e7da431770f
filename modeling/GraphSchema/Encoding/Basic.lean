import GraphSchema.Argument
import GraphSchema.Double.OfNumeral
import GraphSchema.Json.Reading
import GraphSchema.Variable

/-
  This file defines the document forms of words, variables,
  values and arguments, and the reading of these forms.

  Key definitions include:
    * `Vocabulary.toJson`
    * `Vocabulary.ofJson?`
    * `Json.content?`
    * `Json.fillSlot`
    * `Json.pair?`
    * `Variable.toJson`
    * `Variable.ofJson?`
    * `Value.toJson`
    * `Value.ofJson?`
    * `Argument.toJson`
    * `Argument.ofJson?`
    * `Json.decode?`
-/

------------------------------------------------------------
-- Words
------------------------------------------------------------

namespace GraphSchema

namespace Vocabulary

variable {W : Type} [Vocabulary W]

/- The document of a word is the literal of its text. -/
def toJson (w : W) : Json :=
  .string (text w)

/-
  The word of a document: a literal, or an object with the
  word for its only name and null for the content.
-/
def ofJson? : Json → Option W
| .string s => ofText? s
| .object [(name, .null)] => ofText? name
| _ => none

end Vocabulary

end GraphSchema

------------------------------------------------------------
-- Records
------------------------------------------------------------

namespace GraphSchema

namespace Json

/-
  The content of the member with a name, if there is exactly
  one such member.
-/
def content?
    (name : String)
    (members : List (String × Json)) :
    Option Json :=
  match members.filter (fun m => m.1 == name) with
  | [(_, content)] => some content
  | _ => none

/-
  What the slot of a declared member holds after one more
  member of an object.  It takes the content of a member
  with its name, unless it holds one already.
-/
def fillSlot
    {α : Type}
    (name : String)
    (read : Json → Option α)
    (slot : Option α)
    (member : String × Json) : Option (Option α) :=
  if member.1 = name then
    match slot with
    | none => (read member.2).map some
    | some _ => none
  else
    some slot

/-
  What the slots of two declared members hold after one more
  member.  A member of another name is passed over.
-/
def fillSlots
    {α β : Type}
    (first second : String)
    (readFirst : Json → Option α)
    (readSecond : Json → Option β)
    (slots : Option α × Option β)
    (member : String × Json) :
    Option (Option α × Option β) := do
  let a ← fillSlot first readFirst slots.1 member
  let b ← fillSlot second readSecond slots.2 member
  return (a, b)

/-
  The contents of a record with two declared members.  An
  object may list them in any order and may have members of
  other names: it is gone through once.  An array lists
  exactly the two contents in the declared order.
-/
def pair?
    {α β : Type}
    (first second : String)
    (readFirst : Json → Option α)
    (readSecond : Json → Option β) :
    Json → Option (α × β)
| .object members => do
    let slots ←
      members.foldlM
        (fillSlots first second readFirst readSecond)
        (none, none)
    let a ← slots.1
    let b ← slots.2
    return (a, b)
| .array [firstItem, secondItem] => do
    let a ← readFirst firstItem
    let b ← readSecond secondItem
    return (a, b)
| _ => none

/- The text of a literal. -/
def string? : Json → Option String
| .string s => some s
| _ => none

/- A document that is read from its text by a reader. -/
def decode?
    {α : Type}
    (read : Json → Option α)
    (s : String) : Option α :=
  (ofText? s).bind read

end Json

end GraphSchema

------------------------------------------------------------
-- Variables
------------------------------------------------------------

namespace GraphSchema

namespace Variable

/- The document of a variable. -/
def toJson (v : Variable) : Json :=
  .object [
    ("name", .string v.name),
    ("kind", Vocabulary.toJson v.kind)]

/- The variable of a document.  Its name is taken as it is. -/
def ofJson? (j : Json) : Option Variable :=
  (j.pair? "name" "kind" Json.string? Vocabulary.ofJson?).map
    (fun (name, kind) => ⟨name, kind⟩)

end Variable

end GraphSchema

------------------------------------------------------------
-- Values
------------------------------------------------------------

namespace GraphSchema

namespace Value

/- The integer of sixty-four bits with a given value. -/
def longOfInt? (i : Int) : Option Int64 :=
  if Int64.minValue.toInt ≤ i ∧ i ≤ Int64.maxValue.toInt then
    some (Int64.ofInt i)
  else
    none

/-
  The document of a value is an object with one member that
  is named for the datatype.  A double that has no numeral
  becomes null.
-/
def toJson : Value → Json
| .long n =>
    .object [("long", .number (Numeral.ofInt n.toInt))]
| .double x =>
    match x.numeral? with
    | some n => .object [("double", .number n)]
    | none => .object [("double", .null)]
| .string s => .object [("string", .string s)]
| .boolean b => .object [("boolean", .bool b)]
| .date t => .object [("date", .string t.exactText)]

/- The value of a datatype with a given content. -/
def ofContent? : DataType → Json → Option Value
| .long, .number n =>
    (n.toInt?.bind longOfInt?).map .long
| .double, .number n => (Double.ofNumeral? n).map .double
| .string, .string s => some (.string s)
| .boolean, .bool b => some (.boolean b)
| .date, .string s => (DateTime.ofText? s).map .date
| _, _ => none

/-
  The value of a document, which has a single member.
-/
def ofJson? : Json → Option Value
| .object [(name, content)] => do
    let datatype ← Vocabulary.ofText? name
    ofContent? datatype content
| _ => none

end Value

end GraphSchema

------------------------------------------------------------
-- Arguments
------------------------------------------------------------

namespace GraphSchema

namespace Argument

/- The document of an argument. -/
def toJson (a : Argument) : Json :=
  .object [
    ("param", Vocabulary.toJson a.parameter),
    ("value", a.value.toJson)]

/- The argument of a document. -/
def ofJson? (j : Json) : Option Argument :=
  (j.pair? "param" "value"
      Vocabulary.ofJson? Value.ofJson?).map
    (fun (parameter, value) => ⟨parameter, value⟩)

end Argument

end GraphSchema
