import GraphSchema.Statement.Renaming

/-
  This file defines what is left of a statement when the
  names of anonymous variables and the default values are
  erased, in all statements and patterns inside of it.

  Key definitions include:
    * `Variable.erased`
    * `Statement.erased`
    * `Property.erased`
    * `Pattern.erased`

  Key theorems include:
    * `Statement.erased_eq_iff`
-/

------------------------------------------------------------
-- Erasure
------------------------------------------------------------

namespace GraphSchema

/- A variable without its name if it is anonymous. -/
def Variable.erased (v : Variable) : Variable :=
  v.mapAnonymous (fun _ => "")

mutual

/- A property without default values. -/
def Property.erased : Property → Property
| .sub s direct => .sub s.erased direct
| .has s isKey _ => .has s.erased isKey none
| .plays s required => .plays s.erased required
| .relates s none => .relates s.erased none
| .relates s (some t) => .relates s.erased (some t.erased)
| .premise p => .premise p.erased
| .conclusion p => .conclusion p.erased
| .type label => .type label
| .abstract => .abstract
| .datatype d => .datatype d
| .regex expression => .regex expression
termination_by structural p => p

/-
  A statement with an erased variable and erased properties.
  The properties are counted anew, so that the count tells
  nothing that the properties do not tell.
-/
def Statement.erased : Statement → Statement
| ⟨v, ⟨entries, _⟩⟩ =>
    ⟨v.erased, ⟨Entry.erased entries, entries.length⟩⟩
termination_by structural s => s

/- Entries with erased properties and no fingerprints. -/
def Entry.erased : List Entry → List Entry
| [] => []
| ⟨p, _⟩ :: entries => ⟨p.erased, 0⟩ :: Entry.erased entries
termination_by structural entries => entries

/- A pattern of erased statements. -/
def Pattern.erased : Pattern → Pattern
| .statement s => .statement s.erased
| .conjunction ps => .conjunction (Pattern.listErased ps)
| .disjunction ps => .disjunction (Pattern.listErased ps)
| .negation p => .negation p.erased
termination_by structural p => p

/- Several patterns of erased statements. -/
def Pattern.listErased : List Pattern → List Pattern
| [] => []
| p :: ps => p.erased :: Pattern.listErased ps
termination_by structural ps => ps

end

end GraphSchema

------------------------------------------------------------
-- Views of Erased Statements
------------------------------------------------------------

namespace GraphSchema

/- Entries are erased one by one. -/
theorem Entry.erased_eq_map (entries : List Entry) :
    Entry.erased entries =
      entries.map (fun e => ⟨e.property.erased, 0⟩) := by
  apply eq_map_of_cons rfl
  rintro ⟨p, fingerprint⟩ entries
  rw [Entry.erased]

/- Patterns are erased one by one. -/
theorem Pattern.listErased_eq_map (ps : List Pattern) :
    Pattern.listErased ps = ps.map Pattern.erased := by
  apply eq_map_of_cons rfl
  intro p ps
  rw [Pattern.listErased]

/- Only an anonymous variable loses its name. -/
theorem Variable.erased_of_isUserDefined
    {v : Variable}
    (h : v.IsUserDefined) : v.erased = v := by
  simp [Variable.erased, Variable.mapAnonymous, h]

@[simp] theorem Variable.isUserDefined_erased (v : Variable) :
    v.erased.IsUserDefined ↔ v.IsUserDefined := by
  rcases v with ⟨name, kind⟩
  cases kind <;>
    simp [Variable.erased, Variable.mapAnonymous,
      Variable.IsUserDefined]

/- A variable shows nothing of what is erased. -/
@[simp] theorem Variable.text_erased (v : Variable) :
    v.erased.text = v.text := by
  rcases v with ⟨name, kind⟩
  cases kind <;> rfl

namespace Statement

@[simp] theorem var_erased (s : Statement) :
    s.erased.var = s.var.erased := by
  rcases s with ⟨v, entries, count⟩
  rfl

/- An erased statement has the erased properties, in order. -/
@[simp] theorem toList_erased (s : Statement) :
    s.erased.properties.toList =
      s.properties.toList.map Property.erased := by
  rcases s with ⟨v, entries, count⟩
  simp [erased, Properties.toList, Entry.erased_eq_map,
    Function.comp_def]

theorem count_erased (s : Statement) :
    s.erased.properties.count =
      s.properties.toList.length := by
  rcases s with ⟨v, entries, count⟩
  simp [erased, Properties.toList]

/-
  Statements are the same after erasure when their variables
  and their properties are, one by one.
-/
theorem erased_eq_iff (s t : Statement) :
    s.erased = t.erased ↔
      s.var.erased = t.var.erased ∧
        s.properties.toList.map Property.erased =
          t.properties.toList.map Property.erased := by
  constructor
  · intro h
    rw [← var_erased, ← var_erased, ← toList_erased,
      ← toList_erased, h]
    exact ⟨rfl, rfl⟩
  · rcases s with ⟨v, entries, count⟩
    rcases t with ⟨w, entries', count'⟩
    rintro ⟨hVar, hProperties⟩
    have hErased :
        entries.map (fun e => e.property.erased) =
          entries'.map (fun e => e.property.erased) := by
      simpa [Properties.toList, Function.comp_def]
        using hProperties
    have hLength : entries.length = entries'.length := by
      simpa using congrArg List.length hErased
    have hEntries :
        Entry.erased entries = Entry.erased entries' := by
      rw [Entry.erased_eq_map, Entry.erased_eq_map]
      simpa [Function.comp_def] using
        congrArg (List.map (fun p => (⟨p, 0⟩ : Entry)))
          hErased
    have hVar' : v.erased = w.erased := hVar
    rw [erased, erased, hVar', hEntries, hLength]

end Statement

end GraphSchema
