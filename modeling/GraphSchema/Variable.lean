import GraphSchema.NameSupply
import GraphSchema.Vocabulary

/-
  This file defines the variables that statements are
  about.  A variable is named by a user, or it is
  anonymous and carries a generated name that is never
  shown.

  Key definitions include:
    * `VariableKind`
    * `Variable`
    * `Variable.named`
    * `Variable.anonymous`
    * `Variable.text`
    * `Variable.Agree`
-/

------------------------------------------------------------
-- Kinds of Variables
------------------------------------------------------------

namespace GraphSchema

/- How a variable came to exist. -/
inductive VariableKind where
| userDefined
| anonymous
deriving DecidableEq, Repr

namespace VariableKind

/- The written form of a kind. -/
def text : VariableKind → String
| .userDefined => "userdefined"
| .anonymous => "anonymous"

instance : Vocabulary VariableKind where
  words := [.userDefined, .anonymous]
  text := text
  mem_words := by
    intro w
    cases w <;> decide
  text_injective := by
    intro v w
    cases v <;> cases w <;> simp [text]

end VariableKind

end GraphSchema

------------------------------------------------------------
-- Variables
------------------------------------------------------------

namespace GraphSchema

/- A variable has a name and a kind. -/
structure Variable where
  name : String
  kind : VariableKind
deriving DecidableEq, Repr

namespace Variable

/- Variables with one name and one kind are the same. -/
theorem eq_iff (v w : Variable) :
    v = w ↔ v.name = w.name ∧ v.kind = w.kind := by
  cases v
  cases w
  simp

/-
  The variable that a user calls by a text.  One dollar
  sign in front of the name is not part of the name.
-/
def named (s : String) : Variable where
  name :=
    match s.toList with
    | '$' :: rest => String.ofList rest
    | _ => s
  kind := .userDefined

/- An anonymous variable with a generated name. -/
def anonymous (name : String) : Variable where
  name := name
  kind := .anonymous

/- A variable was named by a user. -/
def IsUserDefined (v : Variable) : Prop :=
  v.kind = .userDefined

instance (v : Variable) : Decidable v.IsUserDefined := by
  unfold IsUserDefined
  infer_instance

/- A user-defined variable shows its name, others do not. -/
def text (v : Variable) : String :=
  match v.kind with
  | .userDefined => "$" ++ v.name
  | .anonymous => "$_"

/- The text of a variable starts with a dollar sign. -/
theorem exists_text_eq_cons (v : Variable) :
    ∃ cs, v.text.toList = '$' :: cs := by
  rcases v with ⟨name, kind⟩
  cases kind <;> simp [text]

/-
  Two variables agree when neither of them was named by a
  user, or when they are the same variable.
-/
def Agree (v w : Variable) : Prop :=
  v.IsUserDefined ∨ w.IsUserDefined → v = w

instance (v w : Variable) : Decidable (v.Agree w) := by
  unfold Agree
  infer_instance

/- Variables agree if both are anonymous or the same. -/
theorem agree_iff (v w : Variable) :
    v.Agree w ↔
      (¬ v.IsUserDefined ∧ ¬ w.IsUserDefined) ∨ v = w := by
  constructor
  · intro hAgree
    by_cases hUser : v.IsUserDefined ∨ w.IsUserDefined
    · exact .inr (hAgree hUser)
    · exact .inl (not_or.mp hUser)
  · rintro (hNone | hEq) hUser
    · exact absurd hUser (not_or.mpr hNone)
    · exact hEq

/- Every variable agrees with itself. -/
theorem Agree.refl (v : Variable) : v.Agree v := by
  intro hUser
  rfl

/- Agreement of variables is symmetric. -/
theorem Agree.symm
    {v w : Variable}
    (h : v.Agree w) : w.Agree v := by
  intro hUser
  exact (h hUser.symm).symm

/- Agreement of variables is transitive. -/
theorem Agree.trans
    {v w x : Variable}
    (hFirst : v.Agree w)
    (hSecond : w.Agree x) : v.Agree x := by
  intro hUser
  rcases hUser with hv | hx
  · have hEq : v = w := hFirst (.inl hv)
    rw [hEq] at hv ⊢
    exact hSecond (.inl hv)
  · have hEq : w = x := hSecond (.inr hx)
    rw [← hEq] at hx ⊢
    exact hFirst (.inr hx)

end Variable

end GraphSchema
