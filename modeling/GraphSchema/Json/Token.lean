import GraphSchema.Decimal.Numeral
import GraphSchema.Json.Literal

/-
  This file defines the tokens of documents: brackets,
  separators, words, numerals and literals.  Two values are
  never neighbours in a document, so that a document may be
  cut into tokens before its structure is known.

  Key definitions include:
    * `Json.Token`
    * `Json.Token.text`
    * `Json.Token.scan`
    * `Json.Token.ofText?`
-/

------------------------------------------------------------
-- Tokens
------------------------------------------------------------

namespace GraphSchema

namespace Json

/-
  A token.  A garbled token is a literal with an unpaired
  half of a surrogate pair.
-/
inductive Token where
| openObject
| closeObject
| openArray
| closeArray
| comma
| colon
| null
| bool (b : Bool)
| number (n : Numeral)
| string (s : String)
| garbled
deriving DecidableEq

namespace Token

/-
  The text of a token.  A garbled token is written with the
  first half of a pair.
-/
def text : Token → String
| .openObject => "\x7b"
| .closeObject => "\x7d"
| .openArray => "["
| .closeArray => "]"
| .comma => ","
| .colon => ":"
| .null => "null"
| .bool true => "true"
| .bool false => "false"
| .number n => n.text true
| .string s =>
    "\"" ++ String.ofList (Literal.escape s.toList) ++ "\""
| .garbled => "\"\\ud800\""

end Token

end Json

end GraphSchema

------------------------------------------------------------
-- Reading Tokens
------------------------------------------------------------

namespace GraphSchema

namespace Json

namespace Token

/- The token of the pieces of a literal. -/
def ofPieces (pieces : List Literal.Piece) : Token :=
  match Literal.assemble pieces with
  | some cs => .string (String.ofList cs)
  | none => .garbled

/- The token at the front of a text without leading space. -/
def scan : List Char → Option (Token × List Char)
| '\x7b' :: cs => some (.openObject, cs)
| '\x7d' :: cs => some (.closeObject, cs)
| '[' :: cs => some (.openArray, cs)
| ']' :: cs => some (.closeArray, cs)
| ',' :: cs => some (.comma, cs)
| ':' :: cs => some (.colon, cs)
| 'n' :: 'u' :: 'l' :: 'l' :: cs => some (.null, cs)
| 't' :: 'r' :: 'u' :: 'e' :: cs => some (.bool true, cs)
| 'f' :: 'a' :: 'l' :: 's' :: 'e' :: cs =>
    some (.bool false, cs)
| '"' :: cs =>
    (Literal.scan cs).map
      (fun (pieces, rest) => (ofPieces pieces, rest))
| cs =>
    (Numeral.scan cs).map
      (fun (n, rest) => (.number n, rest))

/- A token takes at least one character. -/
theorem length_lt_of_scan
    {cs rest : List Char}
    {t : Token}
    (h : scan cs = some (t, rest)) :
    rest.length < cs.length := by
  unfold scan at h
  split at h
  case h_10 tail =>
    simp only [Option.map_eq_some_iff, Prod.mk.injEq,
      Prod.exists] at h
    obtain ⟨pieces, rest', hScan, _, hRest⟩ := h
    subst hRest
    have hLt := Literal.length_lt_of_scan hScan
    simp only [List.length_cons]
    omega
  case h_11 =>
    simp only [Option.map_eq_some_iff, Prod.mk.injEq,
      Prod.exists] at h
    obtain ⟨n, rest', hScan, _, hRest⟩ := h
    subst hRest
    exact Numeral.length_lt_of_scan hScan
  all_goals
    simp only [Option.some.injEq, Prod.mk.injEq] at h
    rw [← h.2]
    simp only [List.length_cons]
    omega

/- A character that may stand between tokens. -/
def IsSpace (c : Char) : Prop :=
  c = ' ' ∨ c = '\t' ∨ c = '\n' ∨ c = '\r'

instance (c : Char) : Decidable (IsSpace c) := by
  unfold IsSpace
  infer_instance

/- The text from its first character that is not space. -/
def skipSpace (cs : List Char) : List Char :=
  cs.dropWhile (fun c => IsSpace c)

/- A token behind space takes at least one character. -/
theorem length_lt_of_scan_skipSpace
    {cs rest : List Char}
    {t : Token}
    (h : scan (skipSpace cs) = some (t, rest)) :
    rest.length < cs.length := by
  have hLt := length_lt_of_scan h
  have hLe : (skipSpace cs).length ≤ cs.length :=
    (List.dropWhile_suffix _).length_le
  omega

/- The tokens of a text. -/
def ofChars? (cs : List Char) : Option (List Token) :=
  if skipSpace cs = [] then
    some []
  else
    match _ : scan (skipSpace cs) with
    | none => none
    | some (t, rest) =>
        (ofChars? rest).map (fun ts => t :: ts)
termination_by cs.length
decreasing_by exact length_lt_of_scan_skipSpace ‹_›

/- The tokens of a document. -/
def ofText? (s : String) : Option (List Token) :=
  ofChars? s.toList

end Token

end Json

end GraphSchema
