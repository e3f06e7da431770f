import GraphSchema.Statement.Basic

/-
  This file defines the texts of statements, properties and
  patterns in the schema language.  A statement that another
  one refers to is shortened: to its variable if a user
  named it, and to its label if the label is all it has.

  Key definitions include:
    * `Statement.body`
    * `Statement.printableName`
    * `Statement.text`
    * `Property.argumentText`
    * `Property.text`
    * `Pattern.text`
-/

------------------------------------------------------------
-- Composition of Texts
------------------------------------------------------------

namespace GraphSchema

/-
  The text of a regular expression, with a backslash before
  every slash.  Quotes stand for themselves.
-/
def regexText (expression : String) : String :=
  let slashed :=
    expression.toList.flatMap (fun c =>
      if c = '/' then ['\\', '/'] else [c])
  "\"" ++ String.ofList slashed ++ "\""

/-
  The text of a property by its keyword and the text of its
  argument.  An empty argument is left out.
-/
def propertyText
    (keyword : Keyword)
    (argument : String) : String :=
  if argument = "" then
    keyword.text
  else
    keyword.text ++ " " ++ argument

namespace Statement

/-
  The body of a statement, by the texts of its properties.
  A variable is shown if a user named it, and also if
  there is nothing else to show.
-/
def bodyOf
    (s : Statement)
    (texts : List String) : String :=
  let joined := String.intercalate ", " texts
  if joined = "" then
    s.var.text
  else if s.var.IsUserDefined then
    s.var.text ++ " " ++ joined
  else
    joined

/-
  The short form of a statement, by the texts of its
  properties.  They are computed only if they are shown.
-/
def printableNameOf
    (s : Statement)
    (texts : Unit → List String) : String :=
  if s.var.IsUserDefined then
    s.var.text
  else
    match s.properties.count, s.label with
    | 1, some label => label
    | _, _ => s.bodyOf (texts ())

end Statement

namespace Pattern

/-
  A pattern as a block, by its text.  A conjunction is a
  block already.
-/
def blockOf
    (p : Pattern)
    (text : String) : String :=
  if p.IsConjunction then
    text
  else
    "\x7b " ++ text ++ " \x7d"

/-
  A pattern as an item of a conjunction, by its text.  Every
  pattern but a conjunction ends with a semicolon itself.
-/
def itemOf
    (p : Pattern)
    (text : String) : String :=
  if p.IsConjunction then
    " " ++ text ++ ";"
  else
    " " ++ text

end Pattern

end GraphSchema

------------------------------------------------------------
-- Texts
------------------------------------------------------------

namespace GraphSchema

mutual

/- The text of a property behind its keyword. -/
def Property.argumentText : Property → String
| .type label => label
| .abstract => ""
| .sub s _ => s.printableNameOf (fun _ => s.propertyTexts)
| .has s _ _ => s.printableNameOf (fun _ => s.propertyTexts)
| .plays s _ => s.printableNameOf (fun _ => s.propertyTexts)
| .relates s none =>
    s.printableNameOf (fun _ => s.propertyTexts)
| .relates s (some t) =>
    let role :=
      s.printableNameOf (fun _ => s.propertyTexts)
    let superRole :=
      t.printableNameOf (fun _ => t.propertyTexts)
    role ++ " " ++ Keyword.as.text ++ " " ++ superRole
| .datatype d => d.text
| .regex expression => regexText expression
| .premise p => p.text
| .conclusion p => p.text
termination_by structural p => p

/- The texts of the properties of a statement, in order. -/
def Statement.propertyTexts : Statement → List String
| ⟨_, ⟨entries, _⟩⟩ => (Entry.texts entries).reverse
termination_by structural s => s

/- The texts of entries, in the order of the entries. -/
def Entry.texts : List Entry → List String
| [] => []
| ⟨p, _⟩ :: entries =>
    propertyText p.keyword p.argumentText
      :: Entry.texts entries
termination_by structural entries => entries

/- The text of a pattern. -/
def Pattern.text : Pattern → String
| .statement s => s.bodyOf s.propertyTexts ++ ";"
| .conjunction ps =>
    "\x7b" ++ Pattern.itemTexts ps ++ " \x7d"
| .disjunction ps =>
    String.intercalate " or " (Pattern.blockTexts ps) ++ ";"
| .negation p => "not " ++ p.blockOf p.text ++ ";"
termination_by structural p => p

/- The texts of the items of a conjunction, joined. -/
def Pattern.itemTexts : List Pattern → String
| [] => ""
| p :: ps => p.itemOf p.text ++ Pattern.itemTexts ps
termination_by structural ps => ps

/- The texts of the branches of a disjunction. -/
def Pattern.blockTexts : List Pattern → List String
| [] => []
| p :: ps => p.blockOf p.text :: Pattern.blockTexts ps
termination_by structural ps => ps

end

/- The text of a property. -/
def Property.text (p : Property) : String :=
  propertyText p.keyword p.argumentText

namespace Pattern

/- The text of all items is that of each item, joined. -/
theorem itemTexts_eq_join (ps : List Pattern) :
    itemTexts ps =
      String.join (ps.map (fun p => p.itemOf p.text)) := by
  induction ps with
  | nil =>
      rfl
  | cons p ps ih =>
      rw [itemTexts, ih, List.map_cons, String.join_cons]

/- The texts of branches are those of each branch. -/
theorem blockTexts_eq_map (ps : List Pattern) :
    blockTexts ps = ps.map (fun p => p.blockOf p.text) := by
  apply eq_map_of_cons rfl
  intro p ps
  rw [blockTexts]

end Pattern

/- The texts of entries are those of their properties. -/
theorem Entry.texts_eq_map (entries : List Entry) :
    Entry.texts entries =
      entries.map (fun e => e.property.text) := by
  apply eq_map_of_cons rfl
  rintro ⟨p, fingerprint⟩ entries
  rw [Entry.texts]
  rfl

namespace Statement

/- The texts of properties are in the order of properties. -/
theorem propertyTexts_eq_map (s : Statement) :
    s.propertyTexts =
      s.properties.toList.map Property.text := by
  rcases s with ⟨v, entries, count⟩
  simp [propertyTexts, Entry.texts_eq_map,
    Properties.toList, Function.comp_def]

/- The body of a statement. -/
def body (s : Statement) : String :=
  s.bodyOf s.propertyTexts

/- The short form of a statement that is referred to. -/
def printableName (s : Statement) : String :=
  s.printableNameOf (fun _ => s.propertyTexts)

/- The text of a statement. -/
def text (s : Statement) : String :=
  s.body ++ ";"

end Statement

end GraphSchema
