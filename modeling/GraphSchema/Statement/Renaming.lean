import GraphSchema.Statement.Basic

/-
  This file defines the renaming of anonymous variables.
  Names of anonymous variables mean nothing, and numbering
  them by their first appearance gives statements a form
  that does not depend on how the names were generated.

  Key definitions include:
    * `Statement.mapAnonymous`
    * `Statement.varList`
    * `Statement.numbered`
    * `Properties.numbered`
    * `Property.numbered`
    * `Pattern.numbered`
-/

------------------------------------------------------------
-- Renaming
------------------------------------------------------------

namespace GraphSchema

namespace Variable

/- Rename a variable if it is anonymous. -/
def mapAnonymous
    (f : String → String)
    (v : Variable) : Variable :=
  if v.IsUserDefined then
    v
  else
    { v with name := f v.name }

end Variable

mutual

/- Rename the anonymous variables of a property. -/
def Property.mapAnonymous
    (f : String → String) :
    Property → Property
| .sub s direct => .sub (s.mapAnonymous f) direct
| .has s isKey defaultValue =>
    .has (s.mapAnonymous f) isKey defaultValue
| .plays s required => .plays (s.mapAnonymous f) required
| .relates s none => .relates (s.mapAnonymous f) none
| .relates s (some t) =>
    .relates (s.mapAnonymous f) (some (t.mapAnonymous f))
| .premise p => .premise (p.mapAnonymous f)
| .conclusion p => .conclusion (p.mapAnonymous f)
| .type label => .type label
| .abstract => .abstract
| .datatype d => .datatype d
| .regex expression => .regex expression
termination_by structural p => p

/-
  Rename the anonymous variables of a statement.  The
  fingerprints stay as they are, since no such name takes
  part in them.
-/
def Statement.mapAnonymous
    (f : String → String) :
    Statement → Statement
| ⟨v, ⟨entries, count⟩⟩ =>
    ⟨v.mapAnonymous f,
      ⟨Entry.mapAnonymous f entries, count⟩⟩
termination_by structural s => s

/- Rename the anonymous variables of entries. -/
def Entry.mapAnonymous
    (f : String → String) :
    List Entry → List Entry
| [] => []
| ⟨p, fingerprint⟩ :: entries =>
    ⟨p.mapAnonymous f, fingerprint⟩
      :: Entry.mapAnonymous f entries
termination_by structural entries => entries

/- Rename the anonymous variables of a pattern. -/
def Pattern.mapAnonymous
    (f : String → String) :
    Pattern → Pattern
| .statement s => .statement (s.mapAnonymous f)
| .conjunction ps =>
    .conjunction (Pattern.listMapAnonymous f ps)
| .disjunction ps =>
    .disjunction (Pattern.listMapAnonymous f ps)
| .negation p => .negation (p.mapAnonymous f)
termination_by structural p => p

/- Rename the anonymous variables of several patterns. -/
def Pattern.listMapAnonymous
    (f : String → String) :
    List Pattern → List Pattern
| [] => []
| p :: ps =>
    p.mapAnonymous f :: Pattern.listMapAnonymous f ps
termination_by structural ps => ps

end

end GraphSchema

------------------------------------------------------------
-- Views of Renamed Statements
------------------------------------------------------------

namespace GraphSchema

/- The entries are renamed one by one. -/
theorem Entry.mapAnonymous_eq_map
    (f : String → String)
    (entries : List Entry) :
    Entry.mapAnonymous f entries =
      entries.map (fun e =>
        ⟨e.property.mapAnonymous f, e.fingerprint⟩) := by
  apply eq_map_of_cons rfl
  rintro ⟨p, fingerprint⟩ entries
  rw [Entry.mapAnonymous]

/- The patterns are renamed one by one. -/
theorem Pattern.listMapAnonymous_eq_map
    (f : String → String)
    (ps : List Pattern) :
    Pattern.listMapAnonymous f ps =
      ps.map (Pattern.mapAnonymous f) := by
  apply eq_map_of_cons rfl
  intro p ps
  rw [Pattern.listMapAnonymous]

namespace Statement

@[simp] theorem var_mapAnonymous
    (f : String → String)
    (s : Statement) :
    (s.mapAnonymous f).var = s.var.mapAnonymous f := by
  rcases s with ⟨v, entries, count⟩
  rfl

/- A renamed statement has renamed properties, in order. -/
@[simp] theorem toList_mapAnonymous
    (f : String → String)
    (s : Statement) :
    (s.mapAnonymous f).properties.toList =
      s.properties.toList.map (Property.mapAnonymous f) := by
  rcases s with ⟨v, entries, count⟩
  simp [mapAnonymous, Properties.toList,
    Entry.mapAnonymous_eq_map, Function.comp_def]

end Statement

end GraphSchema

------------------------------------------------------------
-- Variables in Document Order
------------------------------------------------------------

namespace GraphSchema

mutual

/- The variables of a property, in document order. -/
def Property.varList : Property → List Variable
| .sub s _ => s.varList
| .has s _ _ => s.varList
| .plays s _ => s.varList
| .relates s none => s.varList
| .relates s (some t) => s.varList ++ t.varList
| .premise p => p.varList
| .conclusion p => p.varList
| _ => []
termination_by structural p => p

/-
  The variables of a statement, in document order: its own
  and then those of its properties.
-/
def Statement.varList : Statement → List Variable
| ⟨v, ⟨entries, _⟩⟩ =>
    v :: (Entry.varLists entries).reverse.flatten
termination_by structural s => s

/- The variables of each entry, in the order of entries. -/
def Entry.varLists : List Entry → List (List Variable)
| [] => []
| ⟨p, _⟩ :: entries => p.varList :: Entry.varLists entries
termination_by structural entries => entries

/- The variables of a pattern, in document order. -/
def Pattern.varList : Pattern → List Variable
| .statement s => s.varList
| .conjunction ps => Pattern.listVarList ps
| .disjunction ps => Pattern.listVarList ps
| .negation p => p.varList
termination_by structural p => p

/- The variables of several patterns, in document order. -/
def Pattern.listVarList : List Pattern → List Variable
| [] => []
| p :: ps => p.varList ++ Pattern.listVarList ps
termination_by structural ps => ps

end

end GraphSchema

------------------------------------------------------------
-- Numbering
------------------------------------------------------------

namespace GraphSchema

/-
  The different names of anonymous variables, by their first
  appearance.
-/
def anonymousNames (vs : List Variable) : List String :=
  let anonymous := vs.filter (fun v => ¬ v.IsUserDefined)
  (anonymous.map Variable.name).eraseDups

/- The name with the number of a name in a list. -/
def numberedName
    (names : List String)
    (name : String) : String :=
  "_" ++ Digit.text (Digit.ofNat (names.idxOf name))

namespace Properties

/- The variables of properties, in document order. -/
def varList (ps : Properties) : List Variable :=
  (Entry.varLists ps.newestFirst).reverse.flatten

/- Rename the anonymous variables of properties. -/
def mapAnonymous
    (f : String → String)
    (ps : Properties) : Properties :=
  { ps with
    newestFirst := Entry.mapAnonymous f ps.newestFirst }

/- Number the anonymous variables of properties. -/
def numbered (ps : Properties) : Properties :=
  ps.mapAnonymous
    (numberedName (anonymousNames ps.varList))

end Properties

namespace Property

/- Number the anonymous variables of a property. -/
def numbered (p : Property) : Property :=
  p.mapAnonymous (numberedName (anonymousNames p.varList))

end Property

namespace Statement

/- Number the anonymous variables of a statement. -/
def numbered (s : Statement) : Statement :=
  s.mapAnonymous (numberedName (anonymousNames s.varList))

end Statement

namespace Pattern

/- Number the anonymous variables of a pattern. -/
def numbered (p : Pattern) : Pattern :=
  p.mapAnonymous (numberedName (anonymousNames p.varList))

end Pattern

end GraphSchema
