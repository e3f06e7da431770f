import GraphSchema.Proofs.Parts
import GraphSchema.Statement.Append
import GraphSchema.Statement.Walk
import Mathlib.Data.List.Basic

/-
  This file shows that the traversal of a statement ends and
  lists the statement before those that its properties refer
  to, each of them followed by its own nested statements.

  Key theorems include:
    * `Statement.listing_eq_cons`
    * `Statement.listing_eq`
    * `Statement.innerStatements_eq_listing`
    * `Walk.listed_of_turn?`
    * `Walk.exists_after_stackSize`
    * `Statement.traversal_is_preorder`
-/

------------------------------------------------------------
-- Listings by Parts
------------------------------------------------------------

namespace GraphSchema

/- The statements of a pattern are leaves, left to right. -/
theorem Pattern.statements_eq_append (p : Pattern) :
    p.statements =
      p.leaves ++ p.parts.flatMap Pattern.statements := by
  cases p <;>
    simp [statements, leaves, parts,
      listStatements_eq_flatMap]

theorem Pattern.listListing_eq_flatMap (ps : List Pattern) :
    listListing ps = ps.flatMap listing := by
  apply eq_flatMap_of_cons rfl
  intro p ps
  rw [listListing]

theorem Pattern.listing_eq (p : Pattern) :
    p.listing = p.statements.flatMap Statement.listing := by
  induction p using Pattern.induction with
  | statement s =>
      rw [listing, statements, List.flatMap_singleton]
  | conjunction ps ih | disjunction ps ih =>
      rw [listing, statements, listListing_eq_flatMap,
        listStatements_eq_flatMap, List.flatMap_assoc]
      exact List.flatMap_congr ih
  | negation q ih =>
      exact ih

theorem Property.listing_eq (p : Property) :
    p.listing = p.statements.flatMap Statement.listing := by
  cases p with
  | relates s superRole =>
      cases superRole <;> simp [listing, statements, types]
  | premise pattern | conclusion pattern =>
      exact pattern.listing_eq
  | _ =>
      simp [listing, statements, types]

/-
  A pattern is listed by the statement that it consists of
  and the patterns that it combines.
-/
theorem Pattern.listing_eq_append (p : Pattern) :
    p.listing =
      p.leaves.flatMap Statement.listing ++
        p.parts.flatMap Pattern.listing := by
  cases p <;>
    simp [listing, leaves, parts, listListing_eq_flatMap]

/-
  A property is listed by its type statements and by its
  patterns.
-/
theorem Property.listing_eq_append (p : Property) :
    p.listing =
      p.types.flatMap Statement.listing ++
        p.patterns.flatMap Pattern.listing := by
  cases p with
  | relates s superRole =>
      cases superRole <;> simp [listing, types, patterns]
  | _ =>
      simp [listing, types, patterns]

theorem Entry.listings_eq_map (entries : List Entry) :
    listings entries =
      entries.map (fun e => e.property.listing) := by
  apply eq_map_of_cons rfl
  rintro ⟨p, fingerprint⟩ rest
  rw [listings]

namespace Statement

theorem listing_eq_cons (s : Statement) :
    s.listing =
      s :: s.properties.toList.flatMap Property.listing := by
  rcases s with ⟨v, entries, count⟩
  rw [listing, Properties.toList, Entry.listings_eq_map,
    List.flatMap_def, List.map_reverse, List.map_map]
  rfl

/-
  A statement is listed before the listings of the
  statements nested in it.
-/
theorem listing_eq (s : Statement) :
    s.listing = s :: s.nested.flatMap listing := by
  rw [listing_eq_cons, nested, List.flatMap_assoc]
  congr 1
  exact List.flatMap_congr (fun p _ => p.listing_eq)

end Statement

end GraphSchema

------------------------------------------------------------
-- Visited Statements
------------------------------------------------------------

namespace GraphSchema

namespace Statement

/-
  Visiting a stack gives the listings of its statements, the
  uppermost first.  What a statement puts on the stack is
  what its listing goes on with.
-/
theorem visit_eq_flatMap_listing (stack : List Statement) :
    visit stack = stack.flatMap listing := by
  fun_induction visit stack with
  | case1 =>
      rfl
  | case2 s pending ih =>
      rw [ih, List.flatMap_append, List.flatMap_cons,
        listing_eq, List.cons_append]

/- The traversal gives the listing of a statement. -/
theorem innerStatements_eq_listing (s : Statement) :
    s.innerStatements = s.listing := by
  rw [innerStatements, visit_eq_flatMap_listing,
    List.flatMap_singleton]

/-
  The traversal gives a statement and what the traversals of
  the statements nested in it give.
-/
theorem innerStatements_eq_cons (s : Statement) :
    s.innerStatements =
      s :: s.nested.flatMap innerStatements := by
  have hListing : innerStatements = listing :=
    funext innerStatements_eq_listing
  rw [hListing]
  exact s.listing_eq

end Statement

end GraphSchema

------------------------------------------------------------
-- Turns of a Walk
------------------------------------------------------------

namespace GraphSchema

namespace Statement

theorem stackSize_reverse (stack : List Statement) :
    stackSize stack.reverse = stackSize stack := by
  induction stack with
  | nil =>
      rfl
  | cons s rest ih =>
      rw [List.reverse_cons, stackSize_append, ih]
      simp only [stackSize]
      omega

end Statement

namespace Walk

/- A turn takes the last of the waiting statements. -/
theorem turn?_concat
    (visited waiting : List Statement)
    (s : Statement) :
    turn? ⟨visited, waiting ++ [s]⟩ =
      some ⟨visited ++ [s],
        waiting ++ s.nested.reverse⟩ := by
  simp [turn?]

theorem turn?_eq_none_iff (w : Walk) :
    w.turn? = none ↔ w.waiting = [] := by
  simp [turn?]

/- A turn is taken by a statement that waits last. -/
theorem exists_of_turn?
    {w w' : Walk}
    (h : w.turn? = some w') :
    ∃ waiting s,
      w.waiting = waiting ++ [s] ∧
        w' = ⟨w.visited ++ [s],
          waiting ++ s.nested.reverse⟩ := by
  rcases w with ⟨visited, waiting⟩
  rcases List.eq_nil_or_concat' waiting with
    rfl | ⟨earlier, s, rfl⟩
  · cases h
  · rw [turn?_concat] at h
    exact ⟨earlier, s, rfl, (Option.some.inj h).symm⟩

/-
  A turn does not change what will have been listed: the
  visited statement and its nested ones were to be listed in
  this order.
-/
theorem listed_of_turn?
    {w w' : Walk}
    (h : w.turn? = some w') :
    w'.listed = w.listed := by
  rcases exists_of_turn? h with ⟨waiting, s, hWaiting, rfl⟩
  simp only [listed, hWaiting, List.reverse_append,
    List.reverse_reverse, List.reverse_singleton,
    List.flatMap_append, List.flatMap_singleton,
    List.append_assoc]
  rw [s.listing_eq]
  rfl

/- A turn takes one statement off the waiting ones. -/
theorem stackSize_of_turn?
    {w w' : Walk}
    (h : w.turn? = some w') :
    Statement.stackSize w.waiting =
      Statement.stackSize w'.waiting + 1 := by
  rcases exists_of_turn? h with ⟨waiting, s, hWaiting, rfl⟩
  rw [hWaiting, Statement.stackSize_append,
    Statement.stackSize_append, Statement.stackSize_reverse]
  simp only [Statement.stackSize, s.size_eq]
  omega

end Walk

end GraphSchema

------------------------------------------------------------
-- Runs of Turns
------------------------------------------------------------

namespace GraphSchema

namespace Walk

/-
  Any number of turns leaves what will have been listed, and
  takes as many statements off the waiting ones.
-/
theorem listed_of_after
    {turns : Nat}
    {w w' : Walk}
    (h : after turns w = some w') :
    w'.listed = w.listed ∧
      Statement.stackSize w.waiting =
        Statement.stackSize w'.waiting + turns := by
  induction turns generalizing w with
  | zero =>
      cases h
      exact ⟨rfl, rfl⟩
  | succ turns ih =>
      rw [after, Option.bind_eq_some_iff] at h
      rcases h with ⟨next, hTurn, hRest⟩
      rcases ih hRest with ⟨hListed, hSize⟩
      constructor
      · rw [hListed, listed_of_turn? hTurn]
      · rw [stackSize_of_turn? hTurn, hSize]
        omega

/-
  A walk takes exactly as many turns as the waiting
  statements have statements in all, and then none waits.
-/
theorem exists_after_stackSize (w : Walk) :
    ∃ w', after (Statement.stackSize w.waiting) w = some w' ∧
      w'.waiting = [] := by
  induction hSize : Statement.stackSize w.waiting
      generalizing w with
  | zero =>
      refine ⟨w, rfl, ?_⟩
      cases hTurn : w.turn? with
      | none =>
          exact w.turn?_eq_none_iff.mp hTurn
      | some next =>
          rw [stackSize_of_turn? hTurn] at hSize
          cases hSize
  | succ turns ih =>
      cases hTurn : w.turn? with
      | none =>
          rw [w.turn?_eq_none_iff.mp hTurn] at hSize
          cases hSize
      | some next =>
          rw [stackSize_of_turn? hTurn] at hSize
          rcases ih next (Nat.succ.inj hSize) with
            ⟨w', hAfter, hDone⟩
          refine ⟨w', ?_, hDone⟩
          rw [after, hTurn]
          exact hAfter

end Walk

end GraphSchema

------------------------------------------------------------
-- Preorder
------------------------------------------------------------

namespace GraphSchema

namespace Statement

/-
  A walk that starts with a statement ends after as many
  turns as there are statements in it, with the statements
  that the traversal gives.  They are the listing of the
  statement: first the statement itself, and then, for each
  of its properties in order and for each statement of the
  property in order, whatever the traversal of that one
  gives.  The statements of a property are its type
  statements and the leaves of its patterns, from left to
  right.
-/
theorem traversal_is_preorder (s : Statement) :
    (∃ w,
      Walk.after s.size (.start s) = some w ∧
        w.turn? = none ∧
        w.visited = s.innerStatements) ∧
    (∀ (turns : Nat) (w : Walk),
      Walk.after turns (.start s) = some w →
        turns ≤ s.size ∧ w.visited <+: s.innerStatements) ∧
    s.innerStatements = s.listing ∧
    s.innerStatements =
      s :: s.properties.toList.flatMap (fun p =>
        p.statements.flatMap innerStatements) ∧
    (∀ p : Property,
      p.statements =
        p.types ++ p.patterns.flatMap Pattern.statements) ∧
    (∀ x : Pattern,
      x.statements =
        x.leaves ++ x.parts.flatMap Pattern.statements) := by
  have hStart :
      (Walk.start s).listed = s.innerStatements := by
    rw [innerStatements_eq_listing]
    exact List.flatMap_singleton _ s
  have hSize : stackSize (Walk.start s).waiting = s.size := by
    simp [Walk.start, stackSize]
  refine ⟨?_, ?_, s.innerStatements_eq_listing, ?_,
    Property.statements_eq_append,
    Pattern.statements_eq_append⟩
  · rcases (Walk.start s).exists_after_stackSize with
      ⟨w, hAfter, hDone⟩
    rw [hSize] at hAfter
    refine ⟨w, hAfter, w.turn?_eq_none_iff.mpr hDone, ?_⟩
    have hListed := (Walk.listed_of_after hAfter).1
    rw [hStart, Walk.listed, hDone] at hListed
    simpa using hListed
  · intro turns w hAfter
    rcases Walk.listed_of_after hAfter with
      ⟨hListed, hTurns⟩
    constructor
    · omega
    · rw [← hStart, ← hListed]
      exact List.prefix_append _ _
  · rw [← List.flatMap_assoc]
    exact s.innerStatements_eq_cons

/-
  Of a rule, its premise is visited from left to right, with
  what is negated there, before the super type that was
  appended later.  After two turns the first statement of
  the premise is visited.
-/
theorem traversal_is_preorder_rule :
    (@appendAll .mixing (.new (.named "r"))
        [.premise (.conjunction
          [.statement (.new (.named "x")),
            .negation (.statement (.new (.named "y")))]),
          .sub (.new (.named "z")) false]
        ).value.innerStatements.map var =
      [.named "r", .named "x", .named "y", .named "z"] ∧
    [.named "r", .named "x"] <+:
      (@appendAll .mixing (.new (.named "r"))
        [.premise (.conjunction
          [.statement (.new (.named "x")),
            .negation (.statement (.new (.named "y")))]),
          .sub (.new (.named "z")) false]
        ).value.innerStatements.map var := by
  let _ : Fingerprint := .mixing
  rcases traversal_is_preorder
      ((new (.named "r")).appendAll
        [.premise (.conjunction
          [.statement (.new (.named "x")),
            .negation (.statement (.new (.named "y")))]),
          .sub (.new (.named "z")) false]).value with
    ⟨_, hTurns, hListing, _⟩
  constructor
  · rw [hListing]
    decide
  · exact (hTurns 2 _ rfl).2.map var

end Statement

end GraphSchema
