/-
  This file shows that a function on lists which goes on
  from one element to the next is a map.  Functions on trees
  are defined together with such functions, because the
  recursion has to be structural.

  Key theorems include:
    * `eq_map_of_cons`
    * `eq_flatMap_of_cons`
-/

------------------------------------------------------------
-- Functions on Lists, Element by Element
------------------------------------------------------------

namespace GraphSchema

variable {A B : Type}

/- A function that gives one result for each element. -/
theorem eq_map_of_cons
    {f : List A → List B}
    {g : A → B}
    (hNil : f [] = [])
    (hCons : ∀ x xs, f (x :: xs) = g x :: f xs)
    (xs : List A) : f xs = xs.map g := by
  induction xs with
  | nil =>
      exact hNil
  | cons x xs ih =>
      rw [hCons, ih, List.map_cons]

/- A function that gives several results for each element. -/
theorem eq_flatMap_of_cons
    {f : List A → List B}
    {g : A → List B}
    (hNil : f [] = [])
    (hCons : ∀ x xs, f (x :: xs) = g x ++ f xs)
    (xs : List A) : f xs = xs.flatMap g := by
  induction xs with
  | nil =>
      exact hNil
  | cons x xs ih =>
      rw [hCons, ih, List.flatMap_cons]

end GraphSchema
