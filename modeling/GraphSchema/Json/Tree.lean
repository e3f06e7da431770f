import GraphSchema.Json.Token

/-
  This file defines documents as trees, and their compact
  text, which has no space between tokens.

  Key definitions include:
    * `Json`
    * `Json.tokens`
    * `Json.text`
    * `Json.literals`
-/

------------------------------------------------------------
-- Documents
------------------------------------------------------------

namespace GraphSchema

/-
  A document.  The members of an object keep their order,
  and a name may occur more than once.  A garbled document
  is a literal that denotes no text, or an object with such
  a literal for a name.
-/
inductive Json where
| null
| bool (b : Bool)
| number (n : Numeral)
| string (s : String)
| array (items : List Json)
| object (members : List (String × Json))
| garbled

end GraphSchema

------------------------------------------------------------
-- Writing Documents
------------------------------------------------------------

namespace GraphSchema

namespace Json

mutual

/- The tokens of a document. -/
def tokens : Json → List Token
| .null => [.null]
| .bool b => [.bool b]
| .number n => [.number n]
| .string s => [.string s]
| .array items =>
    [.openArray] ++ itemTokens items ++ [.closeArray]
| .object members =>
    [.openObject] ++ memberTokens members ++ [.closeObject]
| .garbled => [.garbled]
termination_by structural j => j

/- The tokens of items, with commas in between. -/
def itemTokens : List Json → List Token
| [] => []
| item :: items => item.tokens ++ moreItemTokens items
termination_by structural items => items

/- The tokens of further items, with commas in front. -/
def moreItemTokens : List Json → List Token
| [] => []
| item :: items =>
    .comma :: (item.tokens ++ moreItemTokens items)
termination_by structural items => items

/- The tokens of members, with commas in between. -/
def memberTokens : List (String × Json) → List Token
| [] => []
| (name, content) :: members =>
    .string name :: .colon ::
      (content.tokens ++ moreMemberTokens members)
termination_by structural members => members

/- The tokens of further members, with commas in front. -/
def moreMemberTokens : List (String × Json) → List Token
| [] => []
| (name, content) :: members =>
    .comma :: .string name :: .colon ::
      (content.tokens ++ moreMemberTokens members)
termination_by structural members => members

end

/- The compact text of a document. -/
def text (j : Json) : String :=
  String.join (j.tokens.map Token.text)

/-
  The texts that the literals of a document denote, the
  names of its members among them.
-/
def literals (j : Json) : List String :=
  j.tokens.filterMap (fun token =>
    match token with
    | .string s => some s
    | _ => none)

end Json

end GraphSchema
