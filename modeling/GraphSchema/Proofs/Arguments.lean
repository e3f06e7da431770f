import GraphSchema.Argument
import Mathlib.Data.List.Nodup

/-
  This file shows what a list of arguments supplies: a
  default value if the parameters are different, and else
  the parameter of the first argument that repeats one.

  Key definitions include:
    * `Argument.Supplies`
    * `Argument.FirstRepeated`

  Key theorems include:
    * `Argument.Supplies.extend`
    * `Argument.collectDefault_cases`
    * `Argument.defaultOf_eq_ok_iff`
    * `Argument.defaultOf_eq_error_iff`
-/

------------------------------------------------------------
-- What Arguments Supply
------------------------------------------------------------

namespace GraphSchema

namespace Argument

/-
  Arguments with different parameters supply the value of
  the default argument, if there is one among them.
-/
structure Supplies
    (args : List Argument)
    (found : Option Value) : Prop where
  nodup : (args.map parameter).Nodup
  eq_some_iff :
    ∀ v : Value, found = some v ↔ ofDefault v ∈ args

/-
  A parameter is the first repeated one: an argument gives
  it a value again, and no two of the arguments before that
  one are for the same parameter.
-/
def FirstRepeated
    (args : List Argument)
    (k : Parameter) : Prop :=
  ∃ before a after,
    args = before ++ a :: after ∧
      (before.map parameter).Nodup ∧
      a.parameter ∈ before.map parameter ∧
      a.parameter = k

/- An argument that repeats a parameter makes a difference. -/
theorem not_nodup_of_repeated
    {before after : List Argument}
    {a : Argument}
    (h : a.parameter ∈ before.map parameter) :
    ¬ ((before ++ a :: after).map parameter).Nodup := by
  intro hNodup
  rw [List.map_append, List.map_cons,
    List.nodup_middle, List.nodup_cons] at hNodup
  exact hNodup.1 (List.mem_append_left _ h)

/- What arguments supply is determined by them. -/
theorem Supplies.unique
    {args : List Argument}
    {found found' : Option Value}
    (h : Supplies args found)
    (h' : Supplies args found') : found = found' := by
  apply Option.ext
  intro v
  rw [h.eq_some_iff, h'.eq_some_iff]

theorem Supplies.not_firstRepeated
    {args : List Argument}
    {found : Option Value}
    (h : Supplies args found)
    (k : Parameter) : ¬ FirstRepeated args k := by
  rintro ⟨before, a, after, rfl, _, hRepeated, _⟩
  exact not_nodup_of_repeated hRepeated h.nodup

theorem FirstRepeated.unique
    {args : List Argument}
    {k k' : Parameter}
    (h : FirstRepeated args k)
    (h' : FirstRepeated args k') : k = k' := by
  rcases h with
    ⟨before, a, after, rfl, hNodup, hRepeated, rfl⟩
  rcases h' with
    ⟨before', a', after', hEq, hNodup', hRepeated', rfl⟩
  -- Neither of the two parts can go on behind the other.
  rcases List.append_eq_append_iff.mp hEq with
    ⟨between, rfl, hRest⟩ | ⟨between, rfl, hRest⟩
  · cases between with
    | nil =>
        simp only [List.nil_append, List.cons.injEq] at hRest
        rw [hRest.1]
    | cons b between =>
        rw [List.cons_append, List.cons.injEq] at hRest
        rw [← hRest.1] at hNodup'
        exact absurd hNodup' (not_nodup_of_repeated hRepeated)
  · cases between with
    | nil =>
        simp only [List.nil_append, List.cons.injEq] at hRest
        rw [hRest.1]
    | cons b between =>
        rw [List.cons_append, List.cons.injEq] at hRest
        rw [← hRest.1] at hNodup
        exact absurd hNodup (not_nodup_of_repeated hRepeated')

end Argument

end GraphSchema

------------------------------------------------------------
-- Going Through Arguments
------------------------------------------------------------

namespace GraphSchema

namespace Argument

theorem supplies_nil : Supplies [] none where
  nodup := .nil
  eq_some_iff := by
    intro v
    simp

/-
  One more argument for a new parameter supplies its own
  value, if that parameter is the default.
-/
theorem Supplies.extend
    {before : List Argument}
    {found : Option Value}
    {a : Argument}
    (h : Supplies before found)
    (hNew : a.parameter ∉ before.map parameter) :
    Supplies (before ++ [a]) (updateDefault found a) where
  nodup := by
    rw [List.map_append, List.map_singleton,
      List.nodup_append_comm]
    exact List.nodup_cons.mpr ⟨hNew, h.nodup⟩
  eq_some_iff := by
    intro v
    rcases a with ⟨k, w⟩
    rw [List.mem_append, List.mem_singleton]
    cases k with
    | default =>
        have hOld : ofDefault v ∉ before := by
          intro hMem
          apply hNew
          exact List.mem_map.mpr ⟨ofDefault v, hMem, rfl⟩
        rw [or_iff_right hOld]
        simp [updateDefault, ofDefault, eq_comm]
    | description =>
        simp [updateDefault, ofDefault, h.eq_some_iff]

/-
  Going through the rest of some arguments ends with what
  all of them supply, or with the first parameter that they
  repeat, if the parameters of those before are taken and
  what they supply was found.
-/
theorem collectDefault_cases
    {before rest : List Argument}
    {taken : List Parameter}
    {found : Option Value}
    (hTaken : ∀ k, k ∈ taken ↔ k ∈ before.map parameter)
    (hFound : Supplies before found) :
    (∃ result,
      collectDefault taken found rest = .ok result ∧
        Supplies (before ++ rest) result) ∨
    (∃ k,
      collectDefault taken found rest = .error k ∧
        FirstRepeated (before ++ rest) k) := by
  induction rest generalizing before taken found with
  | nil =>
      left
      rw [List.append_nil]
      exact ⟨found, rfl, hFound⟩
  | cons a rest ih =>
      by_cases hRepeated : a.parameter ∈ taken
      · right
        rw [collectDefault, if_pos hRepeated]
        exact ⟨a.parameter, rfl, before, a, rest, rfl,
          hFound.nodup, (hTaken _).mp hRepeated, rfl⟩
      · have hNew : a.parameter ∉ before.map parameter := by
          rw [← hTaken]
          exact hRepeated
        have hTaken' :
            ∀ k, k ∈ a.parameter :: taken ↔
              k ∈ (before ++ [a]).map parameter := by
          intro k
          rw [List.mem_cons, hTaken, List.map_append,
            List.mem_append, List.map_singleton,
            List.mem_singleton, or_comm]
        rw [collectDefault, if_neg hRepeated,
          List.append_cons]
        exact ih hTaken' (hFound.extend hNew)

/- Arguments supply something or repeat a parameter. -/
theorem defaultOf_cases (args : List Argument) :
    (∃ result,
      defaultOf args = .ok result ∧ Supplies args result) ∨
    (∃ k,
      defaultOf args = .error k ∧ FirstRepeated args k) :=
  collectDefault_cases (by simp) supplies_nil

/- The default value is the one that is supplied. -/
theorem defaultOf_eq_ok_iff
    {args : List Argument}
    {result : Option Value} :
    defaultOf args = .ok result ↔ Supplies args result := by
  rcases defaultOf_cases args with
    ⟨found, hOk, hFound⟩ | ⟨k, hError, hRepeated⟩
  · rw [hOk, Except.ok.injEq]
    constructor
    · rintro rfl
      exact hFound
    · exact hFound.unique
  · rw [hError]
    constructor
    · intro h
      cases h
    · intro h
      exact absurd hRepeated (h.not_firstRepeated k)

/- The error is the first repeated parameter. -/
theorem defaultOf_eq_error_iff
    {args : List Argument}
    {k : Parameter} :
    defaultOf args = .error k ↔ FirstRepeated args k := by
  rcases defaultOf_cases args with
    ⟨found, hOk, hFound⟩ | ⟨k', hError, hRepeated⟩
  · rw [hOk]
    constructor
    · intro h
      cases h
    · intro h
      exact absurd h (hFound.not_firstRepeated k)
  · rw [hError, Except.error.injEq]
    constructor
    · rintro rfl
      exact hRepeated
    · exact hRepeated.unique

/- A parameter is repeated first if not all are different. -/
theorem exists_firstRepeated_iff (args : List Argument) :
    (∃ k, FirstRepeated args k) ↔
      ¬ (args.map parameter).Nodup := by
  constructor
  · rintro ⟨k, before, a, after, rfl, _, hRepeated, _⟩
    exact not_nodup_of_repeated hRepeated
  · intro hRepeats
    rcases defaultOf_cases args with
      ⟨found, _, hFound⟩ | ⟨k, _, hRepeated⟩
    · exact absurd hFound.nodup hRepeats
    · exact ⟨k, hRepeated⟩

end Argument

end GraphSchema
