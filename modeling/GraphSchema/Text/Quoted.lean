/-
  This file defines quoted literals: a text between double
  quotes, in which a backslash stands before every quote and
  every backslash of the text.

  Key definitions include:
    * `Text.escapeChar`
    * `Text.escape`
    * `Text.quote`
    * `Text.unquote`

  Key theorems include:
    * `Text.unquote_escape`
-/

------------------------------------------------------------
-- Quoted Literals
------------------------------------------------------------

namespace GraphSchema

namespace Text

/- A character as it is written between the quotes. -/
def escapeChar (c : Char) : List Char :=
  if c = '"' ∨ c = '\\' then
    ['\\', c]
  else
    [c]

/- A text as it is written between the quotes. -/
def escape (cs : List Char) : List Char :=
  cs.flatMap escapeChar

/- The quoted literal of a text. -/
def quote (s : String) : String :=
  "\"" ++ String.ofList (escape s.toList) ++ "\""

end Text

end GraphSchema

------------------------------------------------------------
-- Reading Quoted Literals
------------------------------------------------------------

namespace GraphSchema

namespace Text

/-
  The text of a literal behind its opening quote, and what
  follows its closing quote.  A backslash and the character
  after it stand for that character.
-/
def unquote :
    List Char → Option (List Char × List Char)
| [] => none
| '"' :: rest => some ([], rest)
| '\\' :: c :: rest =>
    (unquote rest).map (fun (cs, rest) => (c :: cs, rest))
| c :: rest =>
    (unquote rest).map (fun (cs, rest) => (c :: cs, rest))

/- A quote ends a literal. -/
theorem unquote_quote (rest : List Char) :
    unquote ('"' :: rest) = some ([], rest) := by
  simp [unquote]

/- A written character is read back. -/
theorem unquote_escapeChar
    (c : Char)
    (cs : List Char) :
    unquote (escapeChar c ++ cs) =
      (unquote cs).map
        (fun (ds, rest) => (c :: ds, rest)) := by
  unfold escapeChar
  by_cases h : c = '"' ∨ c = '\\'
  · simp [h, unquote]
  · have hQuote : c ≠ '"' := fun hc => h (.inl hc)
    have hSlash : c ≠ '\\' := fun hc => h (.inr hc)
    simp [unquote, hQuote, hSlash]

/- A written text is read back, and nothing behind it. -/
theorem unquote_escape
    (cs rest : List Char) :
    unquote (escape cs ++ '"' :: rest) =
      some (cs, rest) := by
  induction cs with
  | nil =>
      simp [escape, unquote_quote]
  | cons c cs ih =>
      have hRest :
          unquote (escape cs ++ '"' :: rest) =
            some (cs, rest) := ih
      simp only [escape, List.flatMap_cons,
        List.append_assoc] at hRest ⊢
      rw [unquote_escapeChar, hRest]
      rfl

end Text

end GraphSchema
