import GraphSchema.Clause
import GraphSchema.Proofs.AnyCase
import GraphSchema.Proofs.Arguments
import GraphSchema.Proofs.History

/-
  This file shows what becomes of a chain of clauses: it
  fails with the error of the first clause that is refused,
  and else it appends the properties that its clauses
  denote, one after another.

  Key definitions include:
    * `Clause.Denotes`
    * `Clause.IsRefused`
    * `Clause.FailsWith`
    * `Clause.FirstFailure`

  Key theorems include:
    * `Clause.value_property_of_denotes`
    * `Clause.value_property_of_failsWith`
    * `Receiver.value_withClauses_of_denotes`
    * `Receiver.value_withClauses_of_firstFailure`
    * `Receiver.exists_built_of_denotes`
    * `Receiver.outcome_of_clauses`
-/

------------------------------------------------------------
-- Owned Attributes With Arguments
------------------------------------------------------------

namespace GraphSchema

namespace Property

theorem hasWith_of_supplies
    (attributeType : Statement)
    (isKey : Bool)
    {args : List Argument}
    {found : Option Value}
    (h : Argument.Supplies args found) :
    hasWith attributeType isKey args =
      pure (.ok (.has attributeType isKey found)) := by
  rw [hasWith, Argument.defaultOf_eq_ok_iff.mpr h]

/- Arguments that repeat a parameter are refused with it. -/
theorem hasWith_of_firstRepeated
    (attributeType : Statement)
    (isKey : Bool)
    {args : List Argument}
    {k : Parameter}
    (h : Argument.FirstRepeated args k) :
    hasWith attributeType isKey args =
      { value := .error (.duplicateArgument k)
        events :=
          [.rejectingArguments isKey attributeType k] } := by
  rw [hasWith, Argument.defaultOf_eq_error_iff.mpr h]
  rfl

theorem value_hasWith_of_firstRepeated
    (attributeType : Statement)
    (isKey : Bool)
    {args : List Argument}
    {k : Parameter}
    (h : Argument.FirstRepeated args k) :
    (hasWith attributeType isKey args).value =
      .error (.duplicateArgument k) := by
  rw [hasWith_of_firstRepeated _ _ h]

end Property

end GraphSchema

------------------------------------------------------------
-- What Clauses Denote
------------------------------------------------------------

namespace GraphSchema

open Text

namespace Clause

/-
  The property that a clause denotes.  Arguments denote what
  they supply, and a name of a datatype in any case denotes
  that datatype.
-/
def Denotes : Clause → Property → Prop
| .type label, p => p = .type label
| .builtin t, p => p = .type t.text
| .abstract, p => p = .abstract
| .sub superType, p => p = .sub superType false
| .subDirect superType, p => p = .sub superType true
| .key attributeType, p => p = .has attributeType true none
| .has attributeType, p => p = .has attributeType false none
| .hasWith attributeType args, p =>
    ∃ found,
      Argument.Supplies args found ∧
        p = .has attributeType false found
| .plays role, p => p = .plays role false
| .relates role, p => p = .relates role none
| .relatesAs role superRole, p =>
    p = .relates role (some superRole)
| .datatype d, p => p = .datatype d
| .datatypeNamed name, p =>
    ∃ d : DataType,
      SameUpToCase name d.text ∧ p = .datatype d
| .regex expression, p => p = .regex expression
| .premise pattern, p => p = .premise pattern
| .conclusion pattern, p => p = .conclusion pattern
| .constrain q, p => p = q

/-
  A clause is refused if it gives a value to a parameter
  twice, or names a datatype that there is not.
-/
def IsRefused : Clause → Prop
| .hasWith _ args =>
    ¬ (args.map Argument.parameter).Nodup
| .datatypeNamed name =>
    ∀ d : DataType, ¬ SameUpToCase name d.text
| _ => False

/-
  The error of a refused clause.  It tells the parameter
  that is repeated first, or the name as it was given.
-/
def FailsWith : Clause → BuildError → Prop
| .hasWith _ args, e =>
    ∃ k,
      Argument.FirstRepeated args k ∧
        e = .duplicateArgument k
| .datatypeNamed name, e =>
    (∀ d : DataType, ¬ SameUpToCase name d.text) ∧
      e = .unknownDataType name
| _, _ => False

theorem isRefused_iff (c : Clause) :
    c.IsRefused ↔ ∃ e, c.FailsWith e := by
  cases c with
  | hasWith attributeType args =>
      rw [IsRefused, ← Argument.exists_firstRepeated_iff]
      simp only [FailsWith]
      constructor
      · rintro ⟨k, hRepeated⟩
        exact ⟨.duplicateArgument k, k, hRepeated, rfl⟩
      · rintro ⟨e, k, hRepeated, _⟩
        exact ⟨k, hRepeated⟩
  | datatypeNamed name =>
      simp [IsRefused, FailsWith]
  | _ =>
      simp [IsRefused, FailsWith]

/- A name stands for the datatype that it names. -/
theorem property_datatypeNamed
    {name : String}
    {d : DataType}
    (h : SameUpToCase name d.text) :
    (datatypeNamed name).property =
      pure (.ok (.datatype d)) := by
  rw [property, DataType.ofAnyCase?_eq_some_iff.mpr h]

/- The property that a clause denotes is what it stands for. -/
theorem value_property_of_denotes
    {c : Clause}
    {p : Property}
    (h : c.Denotes p) : c.property.value = .ok p := by
  cases c with
  | hasWith attributeType args =>
      rcases h with ⟨found, hFound, rfl⟩
      rw [property, Property.hasWith_of_supplies _ _ hFound]
      rfl
  | datatypeNamed name =>
      rcases h with ⟨d, hName, rfl⟩
      rw [property_datatypeNamed hName]
      rfl
  | _ =>
      rw [h]
      rfl

theorem value_property_of_failsWith
    {c : Clause}
    {e : BuildError}
    (h : c.FailsWith e) : c.property.value = .error e := by
  cases c with
  | hasWith attributeType args =>
      rcases h with ⟨k, hRepeated, rfl⟩
      rw [property]
      exact Property.value_hasWith_of_firstRepeated _ _
        hRepeated
  | datatypeNamed name =>
      rcases h with ⟨hNone, rfl⟩
      rw [property,
        DataType.ofAnyCase?_eq_none_iff.mpr hNone]
      rfl
  | _ => exact h.elim

theorem Denotes.not_isRefused
    {c : Clause}
    {p : Property}
    (h : c.Denotes p) : ¬ c.IsRefused := by
  intro hRefused
  rcases c.isRefused_iff.mp hRefused with ⟨e, hFails⟩
  have hValue := value_property_of_denotes h
  rw [value_property_of_failsWith hFails] at hValue
  cases hValue

theorem exists_denotes
    {c : Clause}
    (h : ¬ c.IsRefused) : ∃ p, c.Denotes p := by
  cases c with
  | hasWith attributeType args =>
      rcases Argument.defaultOf_cases args with
        ⟨found, _, hFound⟩ | ⟨k, _, hRepeated⟩
      · exact ⟨_, found, hFound, rfl⟩
      · exact absurd
          ((Argument.exists_firstRepeated_iff args).mp
            ⟨k, hRepeated⟩) h
  | datatypeNamed name =>
      rcases not_forall_not.mp h with ⟨d, hName⟩
      exact ⟨_, d, hName, rfl⟩
  | _ => exact ⟨_, rfl⟩

end Clause

end GraphSchema

------------------------------------------------------------
-- The First Failure
------------------------------------------------------------

namespace GraphSchema

namespace Clause

/-
  The error of a chain is that of a clause with no refused
  clause before it.
-/
def FirstFailure
    (cs : List Clause)
    (e : BuildError) : Prop :=
  ∃ before c after,
    cs = before ++ c :: after ∧
      (∀ b ∈ before, ¬ b.IsRefused) ∧
      c.FailsWith e

/- A chain denotes properties or has a first failure. -/
theorem denotes_or_firstFailure (cs : List Clause) :
    (∃ ps, List.Forall₂ Denotes cs ps) ∨
      ∃ e, FirstFailure cs e := by
  induction cs with
  | nil =>
      exact .inl ⟨[], .nil⟩
  | cons c rest ih =>
      by_cases hRefused : c.IsRefused
      · right
        rcases c.isRefused_iff.mp hRefused with ⟨e, hFails⟩
        exact ⟨e, [], c, rest, rfl, by simp, hFails⟩
      · rcases exists_denotes hRefused with ⟨p, hDenotes⟩
        rcases ih with ⟨ps, hRest⟩ | ⟨e, hFirst⟩
        · left
          exact ⟨p :: ps, .cons hDenotes hRest⟩
        · right
          rcases hFirst with
            ⟨before, d, after, rfl, hBefore, hFails⟩
          exact ⟨e, c :: before, d, after, rfl,
            List.forall_mem_cons.mpr ⟨hRefused, hBefore⟩,
            hFails⟩

theorem exists_firstFailure_iff (cs : List Clause) :
    (∃ e, FirstFailure cs e) ↔ ∃ c ∈ cs, c.IsRefused := by
  constructor
  · rintro ⟨e, before, c, after, rfl, _, hFails⟩
    exact ⟨c, List.mem_append_cons_self,
      c.isRefused_iff.mpr ⟨e, hFails⟩⟩
  · rintro ⟨c, hc, hRefused⟩
    rcases denotes_or_firstFailure cs with
      ⟨ps, hDenotes⟩ | hFirst
    · have hAccepted :
          ∀ b ∈ cs, ¬ b.IsRefused :=
        ((List.forall₂_and_left cs ps).mp
          (hDenotes.imp (fun b p hb =>
            ⟨hb.not_isRefused, hb⟩))).1
      exact absurd hRefused (hAccepted c hc)
    · exact hFirst

end Clause

end GraphSchema

------------------------------------------------------------
-- Chains of Clauses
------------------------------------------------------------

namespace GraphSchema

namespace Receiver

variable [Fingerprint]

/- A variable receives what its bare statement does. -/
theorem constrain_eq
    (r : Receiver)
    (p : Property) :
    r.constrain p = r.toStatement.append p := by
  cases r <;> rfl

/- A clause appends the property that it denotes. -/
theorem value_withClause_of_denotes
    (r : Receiver)
    {c : Clause}
    {p : Property}
    (h : c.Denotes p) :
    (r.withClause c).value =
      .ok (r.toStatement.append p).value := by
  rw [withClause, Logged.value_bind,
    Clause.value_property_of_denotes h, ← constrain_eq]
  rfl

/- A refused clause fails whatever it is applied to. -/
theorem value_withClause_of_failsWith
    (r : Receiver)
    {c : Clause}
    {e : BuildError}
    (h : c.FailsWith e) :
    (r.withClause c).value = .error e := by
  rw [withClause, Logged.value_bind,
    Clause.value_property_of_failsWith h]
  rfl

/- After a clause the chain goes on with what was built. -/
theorem value_withClauses_cons_of_denotes
    (r : Receiver)
    {c : Clause}
    {p : Property}
    (rest : List Clause)
    (h : c.Denotes p) :
    (r.withClauses (c :: rest)).value =
      ((ofStatement (r.toStatement.append p).value
        ).withClauses rest).value := by
  rw [withClauses, Logged.value_bind,
    r.value_withClause_of_denotes h]

/- A chain ends at a clause that is refused. -/
theorem value_withClauses_cons_of_failsWith
    (r : Receiver)
    {c : Clause}
    {e : BuildError}
    (rest : List Clause)
    (h : c.FailsWith e) :
    (r.withClauses (c :: rest)).value = .error e := by
  rw [withClauses, Logged.value_bind,
    r.value_withClause_of_failsWith h]
  rfl

/-
  A chain appends the properties that its clauses denote, in
  the order of the clauses.
-/
theorem value_withClauses_of_denotes
    (r : Receiver)
    {cs : List Clause}
    {ps : List Property}
    (h : List.Forall₂ Clause.Denotes cs ps) :
    (r.withClauses cs).value =
      .ok (r.toStatement.appendAll ps).value := by
  induction h generalizing r with
  | nil =>
      rfl
  | cons hHead hTail ih =>
      rw [r.value_withClauses_cons_of_denotes _ hHead, ih]
      rfl

/- A chain fails as the first refused clause of it does. -/
theorem value_withClauses_of_firstFailure
    (r : Receiver)
    {cs : List Clause}
    {e : BuildError}
    (h : Clause.FirstFailure cs e) :
    (r.withClauses cs).value = .error e := by
  rcases h with ⟨before, c, after, rfl, hBefore, hFails⟩
  induction before generalizing r with
  | nil =>
      exact r.value_withClauses_cons_of_failsWith after hFails
  | cons b before ih =>
      rcases List.forall_mem_cons.mp hBefore with
        ⟨hHead, hTail⟩
      rcases Clause.exists_denotes hHead with ⟨p, hDenotes⟩
      rw [List.cons_append,
        r.value_withClauses_cons_of_denotes _ hDenotes]
      exact ih _ hTail

theorem value_withClauses_eq_error_iff
    (r : Receiver)
    (cs : List Clause)
    (e : BuildError) :
    (r.withClauses cs).value = .error e ↔
      Clause.FirstFailure cs e := by
  constructor
  · intro h
    rcases Clause.denotes_or_firstFailure cs with
      ⟨ps, hDenotes⟩ | ⟨e', hFirst⟩
    · rw [r.value_withClauses_of_denotes hDenotes] at h
      cases h
    · rw [r.value_withClauses_of_firstFailure hFirst] at h
      cases h
      exact hFirst
  · exact r.value_withClauses_of_firstFailure

theorem value_withClauses_eq_ok_iff
    (r : Receiver)
    (cs : List Clause)
    (s : Statement) :
    (r.withClauses cs).value = .ok s ↔
      ∃ ps,
        List.Forall₂ Clause.Denotes cs ps ∧
          s = (r.toStatement.appendAll ps).value := by
  constructor
  · intro h
    rcases Clause.denotes_or_firstFailure cs with
      ⟨ps, hDenotes⟩ | ⟨e, hFirst⟩
    · rw [r.value_withClauses_of_denotes hDenotes] at h
      cases h
      exact ⟨ps, hDenotes, rfl⟩
    · rw [r.value_withClauses_of_firstFailure hFirst] at h
      cases h
  · rintro ⟨ps, hDenotes, rfl⟩
    exact r.value_withClauses_of_denotes hDenotes

theorem withClause_ofStatement
    (r : Receiver)
    (c : Clause) :
    (ofStatement r.toStatement).withClause c =
      r.withClause c := by
  simp only [withClause, constrain_eq]
  rfl

/-
  Clauses that denote built properties leave the variable of
  a built receiver as it is, and add to its properties those
  that are new.
-/
theorem exists_built_of_denotes
    {r : Receiver}
    {cs : List Clause}
    {ps : List Property}
    (hr : r.toStatement.Built)
    (hDenoted : List.Forall₂ Clause.Denotes cs ps)
    (hps : ∀ p ∈ ps, p.Built) :
    ∃ s,
      (r.withClauses cs).value = .ok s ∧
      s.var = r.toStatement.var ∧
      s.properties.toList =
        r.toStatement.properties.toList ++
          Property.novel r.toStatement.properties.toList ps :=
  ⟨_, r.value_withClauses_of_denotes hDenoted,
    Statement.var_appendAll _ ps,
    Statement.toList_appendAll hr hps
      (fun _ hq => hr.contains_iff_beq hq)⟩

/- A variable and its bare statement build the same. -/
theorem withClauses_ofStatement
    (r : Receiver)
    (cs : List Clause) :
    (ofStatement r.toStatement).withClauses cs =
      r.withClauses cs := by
  cases cs with
  | nil =>
      rfl
  | cons c rest =>
      rw [withClauses, withClauses, withClause_ofStatement]

end Receiver

end GraphSchema

------------------------------------------------------------
-- Clauses That Act Alike
------------------------------------------------------------

namespace GraphSchema

open Text

namespace Clause

/-
  A clause acts as another one if either of them may stand
  for the other anywhere in a chain.
-/
def ActsAs
    [Fingerprint]
    (c d : Clause) : Prop :=
  ∀ (r : Receiver) (before after : List Clause),
    r.withClauses (before ++ c :: after) =
      r.withClauses (before ++ d :: after)

/- Clauses that stand for one property act alike. -/
theorem actsAs_of_property_eq
    [Fingerprint]
    {c d : Clause}
    (h : c.property = d.property) : c.ActsAs d := by
  intro r before after
  induction before generalizing r with
  | nil =>
      simp only [List.nil_append, Receiver.withClauses,
        Receiver.withClause, h]
  | cons b before ih =>
      simp only [List.cons_append, Receiver.withClauses, ih]

theorem datatypeNamed_actsAs
    [Fingerprint]
    {name : String}
    {d : DataType}
    (h : SameUpToCase name d.text) :
    ActsAs (.datatypeNamed name) (.datatype d) := by
  apply actsAs_of_property_eq
  exact property_datatypeNamed h

/- Arguments without a default act as no arguments. -/
theorem hasWith_actsAs
    [Fingerprint]
    (attributeType : Statement)
    {args : List Argument}
    (hNodup : (args.map Argument.parameter).Nodup)
    (hDefault : ∀ a ∈ args, a.parameter ≠ .default) :
    ActsAs (.hasWith attributeType args)
      (.has attributeType) := by
  have hNothing : Argument.Supplies args none := by
    refine ⟨hNodup, ?_⟩
    intro v
    constructor
    · intro h
      cases h
    · intro hMem
      exact absurd rfl (hDefault _ hMem)
  apply actsAs_of_property_eq
  exact Property.hasWith_of_supplies _ _ hNothing

/-
  A name is refused if it is empty or if anything but ASCII
  letters occurs in it.
-/
theorem datatypeNamed_failsWith
    {name : String}
    (h :
      name = "" ∨ ∃ c ∈ name.toList, c.isAlpha = false) :
    (datatypeNamed name).FailsWith
      (.unknownDataType name) := by
  refine ⟨?_, rfl⟩
  intro d hName
  rcases h with rfl | ⟨c, hc, hOther⟩
  · exact DataType.not_sameUpToCase_empty d hName
  · rw [DataType.isAlpha_of_sameUpToCase hName hc] at hOther
    cases hOther

end Clause

end GraphSchema

------------------------------------------------------------
-- The Outcome of a Chain
------------------------------------------------------------

namespace GraphSchema

open Text

namespace Receiver

/-
  A chain of clauses fails if some clause repeats a
  parameter or names a datatype that there is not, and the
  error is that of the first such clause.  Else it appends
  the properties that the clauses denote to the statement of
  the receiver, one after another, whether the receiver is
  that statement or a variable.  Of built properties those
  that are new stand behind the old ones afterwards.

  The name of a datatype in any case acts as the datatype,
  while anything but ASCII letters in a name is refused.  A
  key is an owned attribute with its flag set, and arguments
  that have no default act as none.
-/
theorem outcome_of_clauses
    [Fingerprint]
    (r : Receiver)
    (cs : List Clause) :
    ((∃ e, (r.withClauses cs).value = .error e) ↔
      ∃ c ∈ cs, c.IsRefused) ∧
    (∀ e,
      (r.withClauses cs).value = .error e ↔
        Clause.FirstFailure cs e) ∧
    (∀ s,
      (r.withClauses cs).value = .ok s ↔
        ∃ ps,
          List.Forall₂ Clause.Denotes cs ps ∧
            s = (r.toStatement.appendAll ps).value) ∧
    (∀ ps,
      r.toStatement.Built →
      List.Forall₂ Clause.Denotes cs ps →
      (∀ p ∈ ps, p.Built) →
        ∃ s,
          (r.withClauses cs).value = .ok s ∧
          s.var = r.toStatement.var ∧
          s.properties.toList =
            r.toStatement.properties.toList ++
              Property.novel
                r.toStatement.properties.toList ps) ∧
    (ofStatement r.toStatement).withClauses cs =
      r.withClauses cs ∧
    (∀ (name : String) (d : DataType),
      SameUpToCase name d.text →
        Clause.ActsAs (.datatypeNamed name)
          (.datatype d)) ∧
    (∀ name : String,
      (name = "" ∨
        ∃ c ∈ name.toList, c.isAlpha = false) →
        (Clause.datatypeNamed name).FailsWith
          (.unknownDataType name)) ∧
    (∀ attributeType : Statement,
      Clause.ActsAs (.key attributeType)
          (.constrain (.has attributeType true none)) ∧
        Clause.ActsAs (.has attributeType)
          (.constrain (.has attributeType false none))) ∧
    (∀ (attributeType : Statement) (args : List Argument),
      (args.map Argument.parameter).Nodup →
      (∀ a ∈ args, a.parameter ≠ .default) →
        Clause.ActsAs (.hasWith attributeType args)
          (.has attributeType)) := by
  refine ⟨?_, r.value_withClauses_eq_error_iff cs,
    r.value_withClauses_eq_ok_iff cs, ?_,
    r.withClauses_ofStatement cs, ?_, ?_, ?_, ?_⟩
  · rw [← Clause.exists_firstFailure_iff]
    simp only [value_withClauses_eq_error_iff]
  · intro ps hr hDenoted hps
    exact exists_built_of_denotes hr hDenoted hps
  · intro name d hName
    exact Clause.datatypeNamed_actsAs hName
  · intro name hName
    exact Clause.datatypeNamed_failsWith hName
  · intro attributeType
    exact ⟨Clause.actsAs_of_property_eq rfl,
      Clause.actsAs_of_property_eq rfl⟩
  · intro attributeType args hNodup hDefault
    exact Clause.hasWith_actsAs attributeType hNodup hDefault

/-
  A second description is refused before a name that is no
  datatype, and a datatype is recognised in mixed case.  A
  clause that is repeated adds nothing the second time.
-/
theorem outcome_of_clauses_mixed :
    (@withClauses .mixing (.ofVariable (.named "x"))
        [.type "person",
          .hasWith (.new (.named "n"))
            [.ofDescription "a", .ofDefault (.long 1),
              .ofDescription "b", .ofDefault (.long 2)],
          .datatypeNamed "int"]).value =
      .error (.duplicateArgument .description) ∧
    (@withClauses .mixing (.ofVariable (.named "x"))
        [.datatypeNamed "LoNg",
          .hasWith (.new (.named "n"))
            [.ofDescription "a", .ofDefault (.long 1)],
          .abstract]).value =
      .ok (@Statement.appendAll .mixing (.new (.named "x"))
        [.datatype .long,
          .has (.new (.named "n")) false (some (.long 1)),
          .abstract]).value ∧
    (∃ s,
      (@withClauses .mixing (.ofVariable (.named "x"))
        [.abstract, .datatypeNamed "LoNg",
          .abstract]).value = .ok s ∧
      s.var = .named "x" ∧
      s.properties.toList = [.abstract, .datatype .long]) ∧
    (Clause.datatypeNamed " long").FailsWith
      (.unknownDataType " long") := by
  let _ : Fingerprint := .mixing
  have hLong : SameUpToCase "LoNg" DataType.long.text := by
    decide
  refine ⟨?_, ?_, ?_, ?_⟩
  · rcases outcome_of_clauses _ _ with ⟨_, hError, _⟩
    refine (hError _).mpr
      ⟨[.type "person"], _, [.datatypeNamed "int"], rfl,
        ?_, .description, ?_, rfl⟩
    · simp [Clause.IsRefused]
    · exact ⟨[.ofDescription "a", .ofDefault (.long 1)],
        .ofDescription "b", [.ofDefault (.long 2)], rfl,
        by decide, by decide, rfl⟩
  · rcases outcome_of_clauses _ _ with ⟨_, _, hOk, _⟩
    have hDefault :
        Argument.Supplies
          [.ofDescription "a", .ofDefault (.long 1)]
          (some (.long 1)) :=
      Argument.defaultOf_eq_ok_iff.mp rfl
    exact (hOk _).mpr
      ⟨_, .cons ⟨.long, hLong, rfl⟩
        (.cons ⟨_, hDefault, rfl⟩ (.cons rfl .nil)), rfl⟩
  · rcases outcome_of_clauses (.ofVariable (.named "x"))
        [.abstract, .datatypeNamed "LoNg", .abstract] with
      ⟨_, _, _, hBuilt, _⟩
    have hDenoted :
        List.Forall₂ Clause.Denotes
          [.abstract, .datatypeNamed "LoNg", .abstract]
          [.abstract, .datatype .long, .abstract] :=
      .cons rfl (.cons ⟨.long, hLong, rfl⟩
        (.cons rfl .nil))
    refine hBuilt _ (.new _) hDenoted ?_
    simp [Property.Built.abstract, Property.Built.datatype]
  · rcases outcome_of_clauses (.ofVariable (.named "x"))
        [] with
      ⟨_, _, _, _, _, _, hRefused, _⟩
    exact hRefused " long" (.inr ⟨' ', by decide, by decide⟩)

end Receiver

end GraphSchema
