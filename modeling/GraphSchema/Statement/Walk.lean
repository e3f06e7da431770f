import GraphSchema.Statement.Traversal

/-
  This file defines the traversal of a statement as a loop
  that takes one turn after another.  Statements wait on a
  stack that grows at its end, so that those nested in a
  visited statement are put there in reverse.

  Key definitions include:
    * `Walk`
    * `Walk.start`
    * `Walk.turn?`
    * `Walk.after`
    * `Walk.listed`
-/

------------------------------------------------------------
-- Walks
------------------------------------------------------------

namespace GraphSchema

/-
  A walk through statements: the ones visited so far, in
  order, and the ones that wait, the next of them last.
-/
structure Walk where
  visited : List Statement
  waiting : List Statement

namespace Walk

/- At first nothing is visited and one statement waits. -/
def start (s : Statement) : Walk where
  visited := []
  waiting := [s]

/-
  The next turn, if a statement waits: it is visited, and
  the statements nested in it wait in its place.
-/
def turn? (w : Walk) : Option Walk :=
  w.waiting.getLast?.map (fun s =>
    { visited := w.visited ++ [s]
      waiting := w.waiting.dropLast ++ s.nested.reverse })

/- The walk after a number of turns, if there are so many. -/
def after : Nat → Walk → Option Walk
| 0, w => some w
| turns + 1, w => w.turn?.bind (after turns)

/-
  What a walk will have listed in the end: the statements
  visited so far and the listings of those that wait.
-/
def listed (w : Walk) : List Statement :=
  w.visited ++ w.waiting.reverse.flatMap Statement.listing

end Walk

end GraphSchema
