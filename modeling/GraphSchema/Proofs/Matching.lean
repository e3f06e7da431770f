import Mathlib.Data.List.Forall2
import Mathlib.Data.List.Perm.Subperm

/-
  This file defines when the elements of two lists can be
  paired one to one by a relation, whatever their order, and
  when a pairing follows from the weaker fact that each
  element of the first list is related to some element of
  the second one.

  Key definitions include:
    * `Paired`

  Key theorems include:
    * `exists_forall₂_subperm`
    * `Paired.of_length_eq`
    * `Paired.flatMap`
    * `Paired.perm_map`
-/

------------------------------------------------------------
-- Related Lists
------------------------------------------------------------

namespace GraphSchema

variable {A B C : Type}

/-
  A relation between two lists may be replaced by one that
  holds of their elements as well.
-/
theorem forall₂_imp_of_mem
    {R S : A → B → Prop}
    {xs : List A}
    {ys : List B}
    (hRelated : List.Forall₂ R xs ys)
    (hImp : ∀ x ∈ xs, ∀ y ∈ ys, R x y → S x y) :
    List.Forall₂ S xs ys := by
  induction hRelated with
  | nil =>
      exact .nil
  | cons hHead hTail ih =>
      constructor
      · exact hImp _ (List.mem_cons_self ..) _
          (List.mem_cons_self ..) hHead
      · apply ih
        intro x hx y hy
        exact hImp x (List.mem_cons_of_mem _ hx) y
          (List.mem_cons_of_mem _ hy)

/- Relations that agree on elements relate the same lists. -/
theorem forall₂_congr_of_mem
    {R S : A → B → Prop}
    {xs : List A}
    {ys : List B}
    (hIff : ∀ x ∈ xs, ∀ y, R x y ↔ S x y) :
    List.Forall₂ R xs ys ↔ List.Forall₂ S xs ys := by
  constructor
  · intro h
    exact forall₂_imp_of_mem h
      (fun x hx y _ => (hIff x hx y).mp)
  · intro h
    exact forall₂_imp_of_mem h
      (fun x hx y _ => (hIff x hx y).mpr)

/- Lists have the same images when their elements do. -/
theorem forall₂_map_eq_iff
    {f : A → C}
    {g : B → C}
    {xs : List A}
    {ys : List B} :
    List.Forall₂ (fun x y => f x = g y) xs ys ↔
      xs.map f = ys.map g := by
  rw [← List.forall₂_eq_eq_eq,
    List.forall₂_map_left_iff, List.forall₂_map_right_iff]

/-
  Relations between lists compose as the relations between
  their elements do.
-/
theorem forall₂_comp_of_mem
    {R : A → B → Prop}
    {S : B → C → Prop}
    {T : A → C → Prop}
    {xs : List A}
    {ys : List B}
    {zs : List C}
    (hFirst : List.Forall₂ R xs ys)
    (hSecond : List.Forall₂ S ys zs)
    (hComp :
      ∀ x ∈ xs, ∀ y ∈ ys, ∀ z ∈ zs,
        R x y → S y z → T x z) :
    List.Forall₂ T xs zs := by
  induction hFirst generalizing zs with
  | nil =>
      cases hSecond
      exact .nil
  | cons hHead hTail ih =>
      cases hSecond with
      | cons hHead' hTail' =>
          constructor
          · exact hComp _ (List.mem_cons_self ..) _
              (List.mem_cons_self ..) _
              (List.mem_cons_self ..) hHead hHead'
          · apply ih hTail'
            intro x hx y hy z hz
            exact hComp x (List.mem_cons_of_mem _ hx) y
              (List.mem_cons_of_mem _ hy) z
              (List.mem_cons_of_mem _ hz)

/-
  If the lists that related elements stand for are related
  one by one, then so are all of these lists together.
-/
theorem forall₂_flatMap
    {D : Type}
    {R : C → D → Prop}
    {f : A → List C}
    {g : B → List D}
    {xs : List A}
    {ys : List B}
    (h :
      List.Forall₂ (fun x y => List.Forall₂ R (f x) (g y))
        xs ys) :
    List.Forall₂ R (xs.flatMap f) (ys.flatMap g) := by
  rw [List.flatMap_def, List.flatMap_def]
  apply List.rel_flatten
  rw [List.forall₂_map_left_iff, List.forall₂_map_right_iff]
  exact h

/- An element of the second list has a partner. -/
theorem exists_of_forall₂_of_mem_right
    {R : A → B → Prop}
    {xs : List A}
    {ys : List B}
    {y : B}
    (hRelated : List.Forall₂ R xs ys)
    (hy : y ∈ ys) :
    ∃ x ∈ xs, R x y := by
  induction hRelated with
  | nil =>
      cases hy
  | cons hHead hTail ih =>
      rcases List.mem_cons.mp hy with rfl | hy
      · exact ⟨_, List.mem_cons_self .., hHead⟩
      · rcases ih hy with ⟨x, hx, hxy⟩
        exact ⟨x, List.mem_cons_of_mem _ hx, hxy⟩

end GraphSchema

------------------------------------------------------------
-- Pairing
------------------------------------------------------------

namespace GraphSchema

variable {A B C : Type}

/-
  The elements of two lists can be paired one to one by a
  relation: one by one, after the second list is reordered.
-/
def Paired
    (R : A → B → Prop)
    (xs : List A)
    (ys : List B) : Prop :=
  ∃ zs, List.Forall₂ R xs zs ∧ zs.Perm ys

/-
  When each element of a list is related to some element of
  another one, and no two of them to the same, the first
  list is paired with a part of the second one.
-/
theorem exists_forall₂_subperm
    {R : A → B → Prop}
    {xs : List A}
    {ys : List B}
    (hFound : ∀ x ∈ xs, ∃ y ∈ ys, R x y)
    (hInjective :
      xs.Pairwise (fun a b => ∀ y ∈ ys, R a y → ¬ R b y)) :
    ∃ zs, List.Forall₂ R xs zs ∧ zs.Subperm ys := by
  induction xs generalizing ys with
  | nil =>
      exact ⟨[], .nil, List.nil_subperm⟩
  | cons x xs ih =>
      rcases hFound x (List.mem_cons_self ..) with
        ⟨y, hy, hxy⟩
      rcases List.append_of_mem hy with
        ⟨before, after, rfl⟩
      rcases List.pairwise_cons.mp hInjective with
        ⟨hHead, hTail⟩
      -- The partner of the head is taken out, and no later
      -- element can miss it.
      have hFoundRest :
          ∀ b ∈ xs, ∃ z ∈ before ++ after, R b z := by
        intro b hb
        rcases hFound b (List.mem_cons_of_mem x hb) with
          ⟨z, hz, hbz⟩
        have hNotTaken : z ≠ y := by
          intro hEq
          subst hEq
          exact hHead b hb z hz hxy hbz
        have hz' : z = y ∨ z ∈ before ++ after :=
          List.mem_cons.mp (List.perm_middle.mem_iff.mp hz)
        exact ⟨z, hz'.resolve_left hNotTaken, hbz⟩
      have hInjectiveRest :
          xs.Pairwise (fun a b =>
            ∀ z ∈ before ++ after, R a z → ¬ R b z) := by
        apply hTail.imp
        intro a b hab z hz
        exact hab z (List.perm_middle.mem_iff.mpr
          (List.mem_cons_of_mem y hz))
      rcases ih hFoundRest hInjectiveRest with
        ⟨zs, hRelated, hPart⟩
      have hPart' : (y :: zs).Subperm (y :: (before ++ after)) :=
        (List.subperm_cons y).mpr hPart
      exact ⟨y :: zs, .cons hxy hRelated,
        hPart'.trans List.perm_middle.symm.subperm⟩

namespace Paired

variable {R : A → B → Prop} {xs : List A} {ys : List B}

/-
  Lists of one length are paired when each element of the
  first is related to some element of the second, and no two
  of them to the same.
-/
theorem of_length_eq
    (hLength : xs.length = ys.length)
    (hFound : ∀ x ∈ xs, ∃ y ∈ ys, R x y)
    (hInjective :
      xs.Pairwise (fun a b => ∀ y ∈ ys, R a y → ¬ R b y)) :
    Paired R xs ys := by
  rcases exists_forall₂_subperm hFound hInjective with
    ⟨zs, hRelated, hPart⟩
  have hLengths : ys.length = zs.length :=
    hLength.symm.trans hRelated.length_eq
  exact ⟨zs, hRelated,
    hPart.perm_of_length_le (Nat.le_of_eq hLengths)⟩

/-
  Lists are paired when each element of either list is
  related to some element of the other one, and no two
  elements of one list to the same.
-/
theorem of_both
    (hForth : ∀ x ∈ xs, ∃ y ∈ ys, R x y)
    (hBack : ∀ y ∈ ys, ∃ x ∈ xs, R x y)
    (hInjective :
      xs.Pairwise (fun a b => ∀ y ∈ ys, R a y → ¬ R b y))
    (hFunctional :
      ys.Pairwise (fun a b => ∀ x ∈ xs, R x a → ¬ R x b)) :
    Paired R xs ys := by
  rcases exists_forall₂_subperm hForth hInjective with
    ⟨zs, hRelated, hPart⟩
  rcases exists_forall₂_subperm hBack hFunctional with
    ⟨ws, hRelated', hPart'⟩
  have hLe : xs.length ≤ ys.length := by
    rw [hRelated.length_eq]
    exact hPart.length_le
  have hGe : ys.length ≤ xs.length := by
    rw [hRelated'.length_eq]
    exact hPart'.length_le
  exact of_length_eq (Nat.le_antisymm hLe hGe) hForth
    hInjective

theorem of_forall₂
    (h : List.Forall₂ R xs ys) :
    Paired R xs ys :=
  ⟨ys, h, .refl ys⟩

/-
  A pairing is one by any other relation that holds of its
  partners.
-/
theorem imp_of_mem
    {S : A → B → Prop}
    (hPaired : Paired R xs ys)
    (hImp : ∀ x ∈ xs, ∀ y ∈ ys, R x y → S x y) :
    Paired S xs ys := by
  rcases hPaired with ⟨zs, hRelated, hPerm⟩
  refine ⟨zs, ?_, hPerm⟩
  apply forall₂_imp_of_mem hRelated
  intro x hx z hz
  exact hImp x hx z (hPerm.mem_iff.mp hz)

theorem cons
    {x : A}
    {y : B}
    (h : R x y)
    (hPaired : Paired R xs ys) :
    Paired R (x :: xs) (y :: ys) := by
  rcases hPaired with ⟨zs, hRelated, hPerm⟩
  exact ⟨y :: zs, .cons h hRelated, hPerm.cons y⟩

theorem append
    {xs' : List A}
    {ys' : List B}
    (hPaired : Paired R xs ys)
    (hPaired' : Paired R xs' ys') :
    Paired R (xs ++ xs') (ys ++ ys') := by
  rcases hPaired with ⟨zs, hRelated, hPerm⟩
  rcases hPaired' with ⟨zs', hRelated', hPerm'⟩
  exact ⟨zs ++ zs', List.rel_append hRelated hRelated',
    hPerm.append hPerm'⟩

/-
  If the lists that partners stand for are paired, then so
  are all of these lists together.
-/
theorem flatMap
    {D : Type}
    {S : C → D → Prop}
    {f : A → List C}
    {g : B → List D}
    (hPaired :
      Paired (fun x y => Paired S (f x) (g y)) xs ys) :
    Paired S (xs.flatMap f) (ys.flatMap g) := by
  rcases hPaired with ⟨zs, hRelated, hPerm⟩
  have hZipped : Paired S (xs.flatMap f) (zs.flatMap g) := by
    clear hPerm
    induction hRelated with
    | nil =>
        exact of_forall₂ .nil
    | cons hHead _ ih =>
        exact hHead.append ih
  rcases hZipped with ⟨ws, hRelated', hPerm'⟩
  exact ⟨ws, hRelated',
    hPerm'.trans (hPerm.flatMap_right g)⟩

theorem length_eq
    (hPaired : Paired R xs ys) :
    xs.length = ys.length := by
  rcases hPaired with ⟨zs, hRelated, hPerm⟩
  rw [hRelated.length_eq, hPerm.length_eq]

/- Every element of the second list has a partner. -/
theorem exists_left
    (hPaired : Paired R xs ys)
    {y : B}
    (hy : y ∈ ys) :
    ∃ x ∈ xs, R x y := by
  rcases hPaired with ⟨zs, hRelated, hPerm⟩
  exact exists_of_forall₂_of_mem_right hRelated
    (hPerm.mem_iff.mpr hy)

/-
  What agrees on all partners is the same for both lists, up
  to order.
-/
theorem perm_map
    (hPaired : Paired R xs ys)
    (f : A → C)
    (g : B → C)
    (hAgree : ∀ x ∈ xs, ∀ y ∈ ys, R x y → f x = g y) :
    (xs.map f).Perm (ys.map g) := by
  rcases hPaired with ⟨zs, hRelated, hPerm⟩
  have hEq :
      List.Forall₂ (fun x z => f x = g z) xs zs := by
    apply forall₂_imp_of_mem hRelated
    intro x hx z hz
    exact hAgree x hx z (hPerm.mem_iff.mp hz)
  rw [forall₂_map_eq_iff.mp hEq]
  exact hPerm.map g

end Paired

end GraphSchema
