import GraphSchema.Proofs.Clauses

/-
  This file shows what owning an attribute with arguments
  gives: a property with the default value that is among the
  arguments, or the error of the first argument that repeats
  a parameter.  In another order the arguments give the same
  property, or else an error again, which may name the other
  parameter.

  Key definitions include:
    * `Argument.RepeatsAt`

  Key theorems include:
    * `Argument.firstRepeated_iff_repeatsAt`
    * `Argument.Supplies.perm`
    * `Property.value_hasWith_eq_ok_iff`
    * `Property.value_hasWith_eq_error_iff`
    * `Property.outcome_of_arguments`
-/

------------------------------------------------------------
-- Repetitions by Position
------------------------------------------------------------

namespace GraphSchema

namespace Argument

/-
  The argument at a position is for a parameter that an
  argument at an earlier position is for.
-/
def RepeatsAt
    (args : List Argument)
    (i : Nat)
    (k : Parameter) : Prop :=
  (args.map parameter)[i]? = some k ∧
    ∃ j < i, (args.map parameter)[j]? = some k

/- No position repeats one exactly if all are different. -/
theorem nodup_iff_not_repeatsAt (args : List Argument) :
    (args.map parameter).Nodup ↔
      ∀ i k, ¬ RepeatsAt args i k := by
  rw [List.nodup_iff_getElem?_ne_getElem?]
  constructor
  · rintro hDistinct i k ⟨hLater, j, hLt, hEarlier⟩
    have hLength : i < (args.map parameter).length :=
      (List.getElem?_eq_some_iff.mp hLater).choose
    exact hDistinct j i hLt hLength (hEarlier.trans hLater.symm)
  · intro hNone j i hLt hLength hSame
    rw [List.getElem?_eq_getElem hLength] at hSame
    exact hNone i _
      ⟨List.getElem?_eq_getElem hLength, j, hLt, hSame⟩

/- A position is repeated alike among the first arguments. -/
theorem repeatsAt_take_iff
    {args : List Argument}
    {i j : Nat}
    {k : Parameter}
    (h : j < i) :
    RepeatsAt (args.take i) j k ↔ RepeatsAt args j k := by
  have hSame :
      ∀ m ≤ j,
        ((args.take i).map parameter)[m]? =
          (args.map parameter)[m]? := by
    intro m hm
    rw [List.map_take, List.getElem?_take, if_pos (by omega)]
  unfold RepeatsAt
  rw [hSame j (Nat.le_refl j)]
  apply and_congr_right
  intro _
  apply exists_congr
  intro m
  apply and_congr_right
  intro hm
  rw [hSame m (Nat.le_of_lt hm)]

/-
  The first repeated parameter is the one at the smallest
  position that repeats one.
-/
theorem firstRepeated_iff_repeatsAt
    {args : List Argument}
    {k : Parameter} :
    FirstRepeated args k ↔
      ∃ i, RepeatsAt args i k ∧
        ∀ j < i, ∀ l, ¬ RepeatsAt args j l := by
  constructor
  · rintro ⟨before, a, after, rfl, hNodup, hRepeated, rfl⟩
    rcases List.mem_iff_getElem?.mp hRepeated with ⟨j, hj⟩
    have hLt : j < before.length := by
      simpa using (List.getElem?_eq_some_iff.mp hj).choose
    have hTake :
        (before ++ a :: after).take before.length = before :=
      List.take_left
    refine ⟨before.length, ⟨by simp, j, hLt, ?_⟩, ?_⟩
    · rw [List.map_append,
        List.getElem?_append_left (by simpa using hLt)]
      exact hj
    · intro m hm l hRepeats
      rw [← repeatsAt_take_iff hm, hTake] at hRepeats
      exact (nodup_iff_not_repeatsAt before).mp hNodup m l
        hRepeats
  · rintro ⟨i, ⟨hLater, j, hLt, hEarlier⟩, hFirst⟩
    rw [List.getElem?_map, Option.map_eq_some_iff] at hLater
    rcases hLater with ⟨a, ha, rfl⟩
    rcases List.getElem?_eq_some_iff.mp ha with ⟨hi, rfl⟩
    refine ⟨args.take i, args[i], args.drop (i + 1), ?_, ?_,
      ?_, rfl⟩
    · rw [List.getElem_cons_drop, List.take_append_drop]
    · rw [nodup_iff_not_repeatsAt]
      intro m l hRepeats
      -- Positions behind the first arguments hold nothing.
      have hm : m < i := by
        have hLength :=
          (List.getElem?_eq_some_iff.mp hRepeats.1).choose
        rw [List.length_map, List.length_take] at hLength
        omega
      exact hFirst m hm l ((repeatsAt_take_iff hm).mp hRepeats)
    · apply List.mem_iff_getElem?.mpr
      refine ⟨j, ?_⟩
      rw [List.map_take, List.getElem?_take, if_pos hLt]
      exact hEarlier

/- Arguments supply the same in every order. -/
theorem Supplies.perm
    {args args' : List Argument}
    {found : Option Value}
    (hFound : Supplies args found)
    (h : args.Perm args') : Supplies args' found where
  nodup := (h.map parameter).nodup_iff.mp hFound.nodup
  eq_some_iff := by
    intro v
    rw [hFound.eq_some_iff, h.mem_iff]

theorem supplies_iff_of_perm
    {args args' : List Argument}
    (h : args'.Perm args)
    (found : Option Value) :
    Supplies args' found ↔ Supplies args found :=
  ⟨fun hFound => hFound.perm h,
    fun hFound => hFound.perm h.symm⟩

end Argument

end GraphSchema

------------------------------------------------------------
-- The Outcome
------------------------------------------------------------

namespace GraphSchema

namespace Property

/-
  Arguments give a property exactly when they supply its
  default value or that there is none.
-/
theorem value_hasWith_eq_ok_iff
    {attributeType : Statement}
    {isKey : Bool}
    {args : List Argument}
    {p : Property} :
    (hasWith attributeType isKey args).value = .ok p ↔
      ∃ found,
        Argument.Supplies args found ∧
          p = .has attributeType isKey found := by
  rcases Argument.defaultOf_cases args with
    ⟨found, _, hFound⟩ | ⟨k, _, hRepeated⟩
  · rw [hasWith_of_supplies _ _ hFound]
    constructor
    · intro h
      cases h
      exact ⟨found, hFound, rfl⟩
    · rintro ⟨found', hFound', rfl⟩
      rw [hFound'.unique hFound]
      rfl
  · rw [value_hasWith_of_firstRepeated _ _ hRepeated]
    constructor
    · intro h
      cases h
    · rintro ⟨found, hFound, _⟩
      exact absurd hRepeated (hFound.not_firstRepeated k)

theorem value_hasWith_eq_error_iff
    {attributeType : Statement}
    {isKey : Bool}
    {args : List Argument}
    {e : BuildError} :
    (hasWith attributeType isKey args).value = .error e ↔
      ∃ k,
        Argument.FirstRepeated args k ∧
          e = .duplicateArgument k := by
  rcases Argument.defaultOf_cases args with
    ⟨found, _, hFound⟩ | ⟨k, _, hRepeated⟩
  · rw [hasWith_of_supplies _ _ hFound]
    constructor
    · intro h
      cases h
    · rintro ⟨k, hRepeated, _⟩
      exact absurd hRepeated (hFound.not_firstRepeated k)
  · rw [value_hasWith_of_firstRepeated _ _ hRepeated]
    constructor
    · intro h
      cases h
      exact ⟨k, hRepeated, rfl⟩
    · rintro ⟨k', hRepeated', rfl⟩
      rw [hRepeated'.unique hRepeated]

theorem exists_value_hasWith_eq_ok_iff
    {attributeType : Statement}
    {isKey : Bool}
    {args : List Argument} :
    (∃ p, (hasWith attributeType isKey args).value = .ok p) ↔
      (args.map Argument.parameter).Nodup := by
  simp only [value_hasWith_eq_ok_iff]
  constructor
  · rintro ⟨p, found, hFound, _⟩
    exact hFound.nodup
  · intro hNodup
    rcases Argument.defaultOf_cases args with
      ⟨found, _, hFound⟩ | hRepeated
    · exact ⟨_, found, hFound, rfl⟩
    · have hSome : ∃ k, Argument.FirstRepeated args k := by
        rcases hRepeated with ⟨k, _, hRepeated⟩
        exact ⟨k, hRepeated⟩
      exact absurd hNodup
        ((Argument.exists_firstRepeated_iff args).mp hSome)

theorem exists_value_hasWith_eq_error_iff
    {attributeType : Statement}
    {isKey : Bool}
    {args : List Argument} :
    (∃ e,
      (hasWith attributeType isKey args).value = .error e) ↔
      ¬ (args.map Argument.parameter).Nodup := by
  rw [← Argument.exists_firstRepeated_iff]
  simp only [value_hasWith_eq_error_iff]
  constructor
  · rintro ⟨e, k, hRepeated, _⟩
    exact ⟨k, hRepeated⟩
  · rintro ⟨k, hRepeated⟩
    exact ⟨_, k, hRepeated, rfl⟩

/-
  Owning an attribute with arguments succeeds exactly if the
  parameters are pairwise different.  The property keeps the
  attribute type and the flag, and its default value is the
  one of the default argument, if there is such an argument.
  Else the error names the parameter at the smallest
  position whose parameter an earlier argument is for.  A
  permutation of the arguments gives the same property, and
  it fails if they do.
-/
theorem outcome_of_arguments
    (attributeType : Statement)
    (isKey : Bool)
    (args : List Argument) :
    ((∃ p,
      (hasWith attributeType isKey args).value = .ok p) ↔
      (args.map Argument.parameter).Nodup) ∧
    (∀ p,
      (hasWith attributeType isKey args).value = .ok p ↔
        (args.map Argument.parameter).Nodup ∧
          ∃ defaultValue,
            p = .has attributeType isKey defaultValue ∧
              ∀ v, defaultValue = some v ↔
                ⟨.default, v⟩ ∈ args) ∧
    (∀ e,
      (hasWith attributeType isKey args).value = .error e ↔
        ∃ i k,
          e = .duplicateArgument k ∧
            Argument.RepeatsAt args i k ∧
            ∀ j < i, ∀ l, ¬ Argument.RepeatsAt args j l) ∧
    (∀ args' : List Argument, args'.Perm args →
      (∀ p,
        (hasWith attributeType isKey args').value = .ok p ↔
          (hasWith attributeType isKey args).value = .ok p) ∧
      ((∃ e,
        (hasWith attributeType isKey args').value =
          .error e) ↔
        ∃ e,
          (hasWith attributeType isKey args).value =
            .error e)) := by
  refine ⟨exists_value_hasWith_eq_ok_iff, ?_, ?_, ?_⟩
  · intro p
    rw [value_hasWith_eq_ok_iff]
    constructor
    · rintro ⟨found, hFound, rfl⟩
      exact ⟨hFound.nodup, found, rfl, hFound.eq_some_iff⟩
    · rintro ⟨hNodup, found, rfl, hFound⟩
      exact ⟨found, ⟨hNodup, hFound⟩, rfl⟩
  · intro e
    simp only [value_hasWith_eq_error_iff,
      Argument.firstRepeated_iff_repeatsAt]
    constructor
    · rintro ⟨k, ⟨i, hRepeats, hFirst⟩, rfl⟩
      exact ⟨i, k, rfl, hRepeats, hFirst⟩
    · rintro ⟨i, k, rfl, hRepeats, hFirst⟩
      exact ⟨k, ⟨i, hRepeats, hFirst⟩, rfl⟩
  · intro args' hPerm
    constructor
    · intro p
      simp only [value_hasWith_eq_ok_iff,
        Argument.supplies_iff_of_perm hPerm]
    · rw [exists_value_hasWith_eq_error_iff,
        exists_value_hasWith_eq_error_iff,
        (hPerm.map Argument.parameter).nodup_iff]

/-
  Two descriptions around a default value are refused at the
  second description.  With the default value first and two
  of them, the default value is the one that is refused,
  although the arguments are the same.
-/
theorem outcome_of_arguments_reordered :
    [Argument.ofDefault (.long 1), .ofDescription "a",
        .ofDefault (.long 2), .ofDescription "b"].Perm
      [.ofDescription "a", .ofDefault (.long 1),
        .ofDescription "b", .ofDefault (.long 2)] ∧
    (hasWith (.new (.named "n")) true
        [.ofDescription "a", .ofDefault (.long 1),
          .ofDescription "b", .ofDefault (.long 2)]).value =
      .error (.duplicateArgument .description) ∧
    (hasWith (.new (.named "n")) true
        [.ofDefault (.long 1), .ofDescription "a",
          .ofDefault (.long 2), .ofDescription "b"]).value =
      .error (.duplicateArgument .default) ∧
    ∃ e,
      (hasWith (.new (.named "n")) true
        [.ofDefault (.long 1), .ofDescription "a",
          .ofDefault (.long 2), .ofDescription "b"]).value =
        .error e := by
  have hPerm :
      [Argument.ofDefault (.long 1), .ofDescription "a",
          .ofDefault (.long 2), .ofDescription "b"].Perm
        [.ofDescription "a", .ofDefault (.long 1),
          .ofDescription "b", .ofDefault (.long 2)] :=
    (List.Perm.swap ..).trans
      (((List.Perm.swap ..).cons _).cons _)
  have hOutcome :=
    outcome_of_arguments (.new (.named "n")) true
      [.ofDescription "a", .ofDefault (.long 1),
        .ofDescription "b", .ofDefault (.long 2)]
  refine ⟨hPerm, rfl, rfl, ?_⟩
  exact (hOutcome.2.2.2 _ hPerm).2.mpr ⟨_, rfl⟩

end Property

end GraphSchema
