/-
  This file defines the closed vocabularies of schema
  statements: the keywords that introduce properties, the
  builtin types, the parameters of optional arguments and
  the primitive datatypes.

  Key definitions include:
    * `Vocabulary`
    * `Vocabulary.ofText?`
    * `Keyword`
    * `BuiltinType`
    * `Parameter`
    * `DataType`
    * `DataType.ofAnyCase?`
-/

------------------------------------------------------------
-- Vocabularies
------------------------------------------------------------

namespace GraphSchema

/-
  A vocabulary is a finite type of words.  The words are
  listed in their declared order, and no two of them are
  written alike.
-/
class Vocabulary (W : Type) where
  words : List W
  text : W → String
  mem_words : ∀ w : W, w ∈ words
  text_injective :
    ∀ v w : W, text v = text w → v = w

namespace Vocabulary

variable {W : Type} [Vocabulary W]

/- The word written by a text, with its exact letters. -/
def ofText? (s : String) : Option W :=
  (words : List W).find? (fun w => text w == s)

/- A word is recovered from its own text. -/
theorem ofText?_text (w : W) :
    ofText? (text w) = some w := by
  unfold ofText?
  cases hFind :
      (words : List W).find?
        (fun v => text v == text w) with
  | none =>
      have hNone :=
        List.find?_eq_none.mp hFind w (mem_words w)
      simp at hNone
  | some v =>
      have hSome := List.find?_some hFind
      have hText : text v = text w := by
        simpa using hSome
      rw [text_injective v w hText]

/- A text that is read as a word is the text of that word. -/
theorem text_of_ofText?
    {s : String}
    {w : W}
    (h : ofText? s = some w) :
    text w = s := by
  simpa using List.find?_some h

end Vocabulary

end GraphSchema

------------------------------------------------------------
-- Property Keywords
------------------------------------------------------------

namespace GraphSchema

/-
  The keyword that introduces a property.  `subDirect` is
  the strict form of `sub`, and `as` separates a role from
  the role that it specialises.
-/
inductive Keyword where
| type
| abstract
| sub
| subDirect
| has
| key
| plays
| relates
| as
| datatype
| regex
| premise
| conclusion
deriving DecidableEq, Repr

namespace Keyword

/- The written form of a keyword. -/
def text : Keyword → String
| .type => "type"
| .abstract => "abstract"
| .sub => "sub"
| .subDirect => "sub!"
| .has => "has"
| .key => "key"
| .plays => "plays"
| .relates => "relates"
| .as => "as"
| .datatype => "datatype"
| .regex => "regex"
| .premise => "when"
| .conclusion => "then"

instance : Vocabulary Keyword where
  words :=
    [.type, .abstract, .sub, .subDirect, .has, .key,
      .plays, .relates, .as, .datatype, .regex,
      .premise, .conclusion]
  text := text
  mem_words := by
    intro w
    cases w <;> decide
  text_injective := by
    intro v w
    cases v <;> cases w <;> simp [text]

end Keyword

end GraphSchema

------------------------------------------------------------
-- Builtin Types
------------------------------------------------------------

namespace GraphSchema

/- The types that every declared type descends from. -/
inductive BuiltinType where
| thing
| entity
| attribute
| relation
| role
| rule
deriving DecidableEq, Repr

namespace BuiltinType

/- The label of a builtin type. -/
def text : BuiltinType → String
| .thing => "thing"
| .entity => "entity"
| .attribute => "attribute"
| .relation => "relation"
| .role => "role"
| .rule => "rule"

instance : Vocabulary BuiltinType where
  words :=
    [.thing, .entity, .attribute, .relation, .role, .rule]
  text := text
  mem_words := by
    intro w
    cases w <;> decide
  text_injective := by
    intro v w
    cases v <;> cases w <;> simp [text]

end BuiltinType

end GraphSchema

------------------------------------------------------------
-- Argument Parameters
------------------------------------------------------------

namespace GraphSchema

/-
  What an optional argument supplies: the value that an
  owned attribute takes when none is given, or a free text.
-/
inductive Parameter where
| default
| description
deriving DecidableEq, Repr

namespace Parameter

/- The written form of a parameter. -/
def text : Parameter → String
| .default => "default"
| .description => "description"

instance : Vocabulary Parameter where
  words := [.default, .description]
  text := text
  mem_words := by
    intro w
    cases w <;> decide
  text_injective := by
    intro v w
    cases v <;> cases w <;> simp [text]

end Parameter

end GraphSchema

------------------------------------------------------------
-- Datatypes
------------------------------------------------------------

namespace GraphSchema

/- The primitive datatypes of attribute types. -/
inductive DataType where
| long
| double
| string
| boolean
| date
deriving DecidableEq, Repr

namespace DataType

/- The written form of a datatype. -/
def text : DataType → String
| .long => "long"
| .double => "double"
| .string => "string"
| .boolean => "boolean"
| .date => "date"

instance : Vocabulary DataType where
  words := [.long, .double, .string, .boolean, .date]
  text := text
  mem_words := by
    intro w
    cases w <;> decide
  text_injective := by
    intro v w
    cases v <;> cases w <;> simp [text]

/-
  A text with the case of its ASCII letters removed.  Every
  other character, also a cased one, stays as it is.
-/
def foldCase (s : String) : List Char :=
  s.toList.map Char.toLower

/-
  The datatype written by a text in any mixture of upper
  and lower case ASCII letters.
-/
def ofAnyCase? (s : String) : Option DataType :=
  (Vocabulary.words : List DataType).find?
    (fun d => foldCase d.text == foldCase s)

end DataType

end GraphSchema
