import GraphSchema.Logged
import GraphSchema.Statement.Event
import GraphSchema.Statement.Identity

/-
  This file defines appending properties to statements.  The
  properties keep the order of their first insertion, and no
  two of them are equal.

  Key definitions include:
    * `Properties.contains`
    * `Properties.append`
    * `Statement.append`
    * `Statement.appendAll`
    * `Statement.labelled`

  Key theorems include:
    * `Properties.toList_append`
    * `Statement.events_append`
    * `Statement.label_append`
    * `Statement.label_appendAll`
-/

------------------------------------------------------------
-- Membership
------------------------------------------------------------

namespace GraphSchema

namespace Properties

/-
  A property with a known fingerprint equals one of the
  properties.
-/
def containsWith
    (ps : Properties)
    (p : Property)
    (fingerprint : UInt64) : Bool :=
  ps.newestFirst.any (fun e =>
    e.fingerprint == fingerprint && e.property == p)

/- A property equals one of the properties. -/
def contains
    [Fingerprint]
    (ps : Properties)
    (p : Property) : Bool :=
  ps.containsWith p p.fingerprint

end Properties

end GraphSchema

------------------------------------------------------------
-- Appending
------------------------------------------------------------

namespace GraphSchema

variable [Fingerprint]

namespace Properties

/-
  Append a property, unless an equal one is there.  In that
  case the properties stay as they are, the earlier default
  value included.
-/
def append
    (ps : Properties)
    (p : Property) :
    Logged Event Properties :=
  let fingerprint := p.fingerprint
  if ps.containsWith p fingerprint then
    { value := ps
      events := [.skippingDuplicate p] }
  else
    { value :=
        { newestFirst := ⟨p, fingerprint⟩ :: ps.newestFirst
          count := ps.count + 1 }
      events := [] }

end Properties

namespace Statement

/- Append a property to a statement. -/
def append
    (s : Statement)
    (p : Property) :
    Logged Event Statement := do
  Logged.record (.appending p s.var)
  let properties ← s.properties.append p
  return { s with properties := properties }

/- Append properties to a statement, one after another. -/
def appendAll
    (s : Statement)
    (ps : List Property) :
    Logged Event Statement :=
  ps.foldlM append s

/- The statement on a variable with a label. -/
def labelled
    (v : Variable)
    (label : String) :
    Logged Event Statement :=
  (new v).append (.type label)

end Statement

end GraphSchema

------------------------------------------------------------
-- What Appending Does
------------------------------------------------------------

namespace GraphSchema

variable [Fingerprint]

namespace Properties

/-
  Appending leaves the properties as they are, or puts the
  new one behind them.
-/
theorem toList_append
    (ps : Properties)
    (p : Property) :
    (ps.append p).value.toList =
      if ps.contains p then ps.toList
      else ps.toList ++ [p] := by
  unfold append contains
  by_cases h : ps.containsWith p p.fingerprint = true
  · simp [h]
  · simp [h, toList]

/- Appending counts each property that it adds. -/
theorem count_append
    (ps : Properties)
    (p : Property) :
    (ps.append p).value.count =
      if ps.contains p then ps.count
      else ps.count + 1 := by
  unfold append contains
  by_cases h : ps.containsWith p p.fingerprint = true
  · simp [h]
  · simp [h]

/- Appending reports a property that it does not add. -/
theorem events_append
    (ps : Properties)
    (p : Property) :
    (ps.append p).events =
      if ps.contains p then [.skippingDuplicate p]
      else [] := by
  unfold append contains
  by_cases h : ps.containsWith p p.fingerprint = true
  · simp [h]
  · simp [h]

end Properties

namespace Statement

/- Appending leaves the variable as it is. -/
theorem var_append
    (s : Statement)
    (p : Property) :
    (s.append p).value.var = s.var :=
  rfl

/- Appending to a statement appends to its properties. -/
theorem properties_append
    (s : Statement)
    (p : Property) :
    (s.append p).value.properties =
      (s.properties.append p).value :=
  rfl

/-
  Appending keeps the label of a statement, and gives it one
  if it has none.
-/
theorem label_append
    (s : Statement)
    (p : Property) :
    (s.append p).value.label = s.label.or (labelOf? p) := by
  rw [label, properties_append, Properties.toList_append]
  by_cases hContained : s.properties.contains p = true
  · rw [if_pos hContained]
    cases p with
    | type label =>
        -- A property that equals a label is that label.
        rcases List.any_eq_true.mp hContained with
          ⟨e, he, hFound⟩
        have hEqual : e.property.equal (.type label) = true :=
          (Bool.and_eq_true_iff.mp hFound).2
        have hProperty : e.property = .type label := by
          cases hKind : e.property <;>
            simp_all [Property.equal]
        have hMember :
            .type label ∈ s.properties.toList := by
          rw [← hProperty]
          exact List.mem_reverse.mpr (List.mem_map_of_mem he)
        have hSome : (s.label).isSome = true :=
          List.findSome?_isSome_iff.mpr
            ⟨.type label, hMember, rfl⟩
        exact (Option.or_of_isSome hSome).symm
    | _ => exact Option.or_none.symm
  · rw [if_neg hContained, List.findSome?_append]
    simp [label]

/-
  Appending is reported first, and after that whether the
  property was there already.
-/
theorem events_append
    (s : Statement)
    (p : Property) :
    (s.append p).events =
      .appending p s.var ::
        if s.properties.contains p then
          [.skippingDuplicate p]
        else
          [] := by
  rw [← Properties.events_append]
  simp [append, Logged.events_bind, Logged.events_pure,
    Logged.record]

end Statement

end GraphSchema

------------------------------------------------------------
-- Runs of Appends
------------------------------------------------------------

namespace GraphSchema

namespace Statement

variable [Fingerprint]

/- Appending nothing leaves a statement as it is. -/
theorem value_appendAll_nil (s : Statement) :
    (s.appendAll []).value = s :=
  rfl

/- Properties are appended from the first one on. -/
theorem value_appendAll_cons
    (s : Statement)
    (p : Property)
    (ps : List Property) :
    (s.appendAll (p :: ps)).value =
      ((s.append p).value.appendAll ps).value :=
  rfl

/- Two runs of appends are one run. -/
theorem value_appendAll_append
    (s : Statement)
    (ps qs : List Property) :
    (s.appendAll (ps ++ qs)).value =
      ((s.appendAll ps).value.appendAll qs).value := by
  induction ps generalizing s with
  | nil =>
      rfl
  | cons p ps ih =>
      rw [List.cons_append, value_appendAll_cons,
        value_appendAll_cons, ih]

/- A run of appends leaves the variable as it is. -/
theorem var_appendAll
    (s : Statement)
    (ps : List Property) :
    (s.appendAll ps).value.var = s.var := by
  induction ps generalizing s with
  | nil =>
      rfl
  | cons p ps ih =>
      rw [value_appendAll_cons, ih, var_append]

/-
  The label after a run of appends is the old one, or else
  the first label that is appended.
-/
theorem label_appendAll
    (s : Statement)
    (ps : List Property) :
    (s.appendAll ps).value.label =
      s.label.or (ps.findSome? labelOf?) := by
  induction ps generalizing s with
  | nil =>
      exact Option.or_none.symm
  | cons p ps ih =>
      rw [value_appendAll_cons, ih, label_append,
        Option.or_assoc]
      congr 1
      cases hLabel : labelOf? p <;>
        simp [hLabel]

end Statement

end GraphSchema
