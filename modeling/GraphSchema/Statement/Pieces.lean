import GraphSchema.Statement.Text
import GraphSchema.Statement.Traversal

/-
  This file defines the pieces that commas separate in the
  text of a statement.  A piece is a property of the
  statement, or it is a property of an anonymous statement
  that is shown by all of its properties where another one
  refers to it.

  Key definitions include:
    * `Text.IsWord`
    * `Statement.IsWorded`
    * `Statement.IsShownInFull`
    * `Statement.pieceKeywords`
    * `Statement.IsBrief`
    * `Statement.NamesBriefly`
-/

------------------------------------------------------------
-- Words
------------------------------------------------------------

namespace GraphSchema

namespace Text

/- A letter or digit of ASCII, a hyphen or an underscore. -/
def isWordChar (c : Char) : Bool :=
  c.isAlphanum || c == '-' || c == '_'

/- A word is not empty and has no other characters. -/
def IsWord (s : String) : Prop :=
  s ≠ "" ∧ s.toList.all isWordChar = true

instance (s : String) : Decidable (IsWord s) := by
  unfold IsWord
  infer_instance

end Text

/-
  A property whose own text consists of words.  A regular
  expression has any text, and patterns have one of their
  own kind.
-/
def Property.HasWords : Property → Prop
| .type label => Text.IsWord label
| .regex _ => False
| .premise _ => False
| .conclusion _ => False
| _ => True

instance : (p : Property) → Decidable p.HasWords
| .type label =>
    inferInstanceAs (Decidable (Text.IsWord label))
| .regex _ | .premise _ | .conclusion _ => .isFalse id
| .abstract | .sub _ _ | .has _ _ _ | .plays _ _
| .relates _ _ | .datatype _ => .isTrue trivial

namespace Statement

/-
  A user calls the variable of a statement by a word, and
  its properties have words.
-/
def HasWords (s : Statement) : Prop :=
  (s.var.IsUserDefined → Text.IsWord s.var.name) ∧
    s.properties.toList.all (fun p => p.HasWords) = true

instance (s : Statement) : Decidable s.HasWords := by
  unfold HasWords
  infer_instance

/- A statement has words at every depth. -/
def IsWorded (s : Statement) : Prop :=
  ∀ t ∈ s.innerStatements, t.HasWords

end Statement

end GraphSchema

------------------------------------------------------------
-- Keywords of Pieces
------------------------------------------------------------

namespace GraphSchema

/-
  A statement that another one refers to is shown in full if
  it has no other short form than its body.
-/
def Statement.IsShownInFull (s : Statement) : Prop :=
  ¬ s.var.IsUserDefined ∧
    ¬ (s.properties.count = 1 ∧ s.label.isSome = true)

instance (s : Statement) : Decidable s.IsShownInFull := by
  unfold Statement.IsShownInFull
  infer_instance

mutual

/-
  The keywords of the pieces behind the first one in the
  text of a property.
-/
def Property.laterKeywords : Property → List Keyword
| .sub s _ => s.laterKeywords
| .has s _ _ => s.laterKeywords
| .plays s _ => s.laterKeywords
| .relates s none => s.laterKeywords
| .relates s (some t) => s.laterKeywords ++ t.laterKeywords
| _ => []
termination_by structural p => p

/-
  The keywords of the pieces behind the first one in the
  short form of a statement.
-/
def Statement.laterKeywords : Statement → List Keyword
| ⟨v, ⟨entries, count⟩⟩ =>
    if Statement.IsShownInFull ⟨v, ⟨entries, count⟩⟩ then
      (Entry.pieceKeywords entries).reverse.flatten.tail
    else
      []
termination_by structural s => s

/-
  The keywords of the pieces of each entry, in the order of
  the entries.
-/
def Entry.pieceKeywords : List Entry → List (List Keyword)
| [] => []
| ⟨p, _⟩ :: entries =>
    (p.keyword :: p.laterKeywords)
      :: Entry.pieceKeywords entries
termination_by structural entries => entries

end

/- The keywords of the pieces of a property. -/
def Property.pieceKeywords (p : Property) : List Keyword :=
  p.keyword :: p.laterKeywords

/- The keywords of the pieces of a statement. -/
def Statement.pieceKeywords (s : Statement) : List Keyword :=
  s.properties.toList.flatMap Property.pieceKeywords

end GraphSchema

------------------------------------------------------------
-- Statements of One Piece
------------------------------------------------------------

namespace GraphSchema

namespace Statement

/-
  A statement is brief where another one refers to it: it is
  shortened to its variable or its label, or it has at most
  one property, and the statements of that one are brief.
-/
inductive IsBrief : Statement → Prop where
| shortened {s : Statement} :
    ¬ s.IsShownInFull →
    IsBrief s
| single {s : Statement} :
    s.properties.toList.length ≤ 1 →
    (∀ p ∈ s.properties.toList, ∀ t ∈ p.types, IsBrief t) →
    IsBrief s

/- The properties of a statement refer to brief ones only. -/
def NamesBriefly (s : Statement) : Prop :=
  ∀ p ∈ s.properties.toList, ∀ t ∈ p.types, t.IsBrief

end Statement

end GraphSchema

------------------------------------------------------------
-- Pieces by Parts
------------------------------------------------------------

namespace GraphSchema

/- The later pieces of a property are those of its types. -/
theorem Property.laterKeywords_eq (p : Property) :
    p.laterKeywords =
      p.types.flatMap Statement.laterKeywords := by
  cases p with
  | relates s superRole =>
      cases superRole <;> simp [laterKeywords, types]
  | _ =>
      simp [laterKeywords, types]

theorem Entry.pieceKeywords_eq_map (entries : List Entry) :
    pieceKeywords entries =
      entries.map (fun e => e.property.pieceKeywords) := by
  apply eq_map_of_cons rfl
  rintro ⟨p, fingerprint⟩ rest
  rw [pieceKeywords]
  rfl

namespace Statement

/- A statement shown in full has all but its first piece. -/
theorem laterKeywords_eq (s : Statement) :
    s.laterKeywords =
      if s.IsShownInFull then s.pieceKeywords.tail
      else [] := by
  rcases s with ⟨v, entries, count⟩
  rw [laterKeywords, pieceKeywords, Properties.toList,
    Entry.pieceKeywords_eq_map, List.flatMap_def,
    List.map_reverse, List.map_map]
  rfl

end Statement

end GraphSchema
