import GraphSchema.Proofs.History

/-
  This file shows that order and repetition of appends do
  not matter for equality, and that whatever is built from
  equal parts is equal.

  Key theorems include:
    * `Statement.beq_iff_contains`
    * `Statement.beq_ofHistory_iff`
    * `Statement.beq_append`
    * `Statement.equality_of_histories`
-/

------------------------------------------------------------
-- Matched Properties
------------------------------------------------------------

namespace GraphSchema

namespace Property

variable [Fingerprint]

/-
  Among built properties there is an equal one for whatever
  equals one of the others when there is one for each of the
  others.
-/
theorem forall_matched_iff
    {ps qs : List Property}
    (hps : ∀ p ∈ ps, p.Built)
    (hqs : ∀ q ∈ qs, q.Built) :
    (∀ r : Property,
      r.Built →
        (∃ p ∈ ps, (p == r) = true) →
          ∃ q ∈ qs, (q == r) = true) ↔
      ∀ p ∈ ps, ∃ q ∈ qs, (p == q) = true := by
  constructor
  · intro hMatched p hp
    have hSelf : (p == p) = true :=
      beq_equivalence.refl ⟨p, hps p hp⟩
    rcases hMatched p (hps p hp) ⟨p, hp, hSelf⟩ with
      ⟨q, hq, hqp⟩
    have hpq : (p == q) = true :=
      beq_equivalence.symm
        (x := ⟨q, hqs q hq⟩) (y := ⟨p, hps p hp⟩) hqp
    exact ⟨q, hq, hpq⟩
  · rintro hForth r hr ⟨p, hp, hpr⟩
    rcases hForth p hp with ⟨q, hq, hpq⟩
    rw [beq_eq_plainEqual (hps p hp) (hqs q hq)] at hpq
    rw [beq_eq_plainEqual (hps p hp) hr] at hpr
    refine ⟨q, hq, ?_⟩
    rw [beq_eq_plainEqual (hqs q hq) hr]
    exact plainEqual_trans (plainEqual_symm hpq) hpr

/-
  The same properties have an equal one among each of two
  lists of built properties when each property of one list
  equals a property of the other list.
-/
theorem forall_matched_iff_matched
    {ps qs : List Property}
    (hps : ∀ p ∈ ps, p.Built)
    (hqs : ∀ q ∈ qs, q.Built) :
    (∀ r : Property,
      r.Built →
        ((∃ p ∈ ps, (p == r) = true) ↔
          ∃ q ∈ qs, (q == r) = true)) ↔
      (∀ p ∈ ps, ∃ q ∈ qs, (p == q) = true) ∧
        ∀ q ∈ qs, ∃ p ∈ ps, (q == p) = true := by
  rw [← forall_matched_iff hps hqs,
    ← forall_matched_iff hqs hps]
  constructor
  · intro h
    exact ⟨fun r hr => (h r hr).mp, fun r hr => (h r hr).mpr⟩
  · rintro ⟨hForth, hBack⟩ r hr
    exact ⟨hForth r hr, hBack r hr⟩

end Property

end GraphSchema

------------------------------------------------------------
-- Equality by Membership
------------------------------------------------------------

namespace GraphSchema

namespace Statement

variable [Fingerprint]

/-
  Built statements are equal when their variables agree and
  each property of one equals a property of the other.
-/
theorem beq_iff_matched
    {s t : Statement}
    (hs : s.Built)
    (ht : t.Built) :
    (s == t) = true ↔
      s.var.Agree t.var ∧
        (∀ p ∈ s.properties.toList,
          ∃ q ∈ t.properties.toList, (p == q) = true) ∧
        (∀ q ∈ t.properties.toList,
          ∃ p ∈ s.properties.toList, (q == p) = true) := by
  have hEqual :
      ∀ p ∈ s.properties.toList,
        ∀ q ∈ t.properties.toList,
          (p == q) = p.plainEqual q ∧
            (q == p) = p.plainEqual q := by
    intro p hp q hq
    have hpBuilt : p.Built := hs.of_mem_toList hp
    have hqBuilt : q.Built := ht.of_mem_toList hq
    refine ⟨Property.beq_eq_plainEqual hpBuilt hqBuilt, ?_⟩
    rw [Property.beq_eq_plainEqual hqBuilt hpBuilt]
    exact Bool.eq_iff_iff.mpr
      ⟨Property.plainEqual_symm, Property.plainEqual_symm⟩
  rw [beq_eq_plainEqual hs ht, plainEqual_iff]
  constructor
  · rintro ⟨hAgree, hForth, hBack⟩
    refine ⟨hAgree, ?_, ?_⟩
    · intro p hp
      rcases hForth p hp with ⟨q, hq, hpq⟩
      exact ⟨q, hq, (hEqual p hp q hq).1.trans hpq⟩
    · intro q hq
      rcases hBack q hq with ⟨p, hp, hpq⟩
      exact ⟨p, hp, (hEqual p hp q hq).2.trans hpq⟩
  · rintro ⟨hAgree, hForth, hBack⟩
    refine ⟨hAgree, ?_, ?_⟩
    · intro p hp
      rcases hForth p hp with ⟨q, hq, hpq⟩
      exact ⟨q, hq, (hEqual p hp q hq).1.symm.trans hpq⟩
    · intro q hq
      rcases hBack q hq with ⟨p, hp, hqp⟩
      exact ⟨p, hp, (hEqual p hp q hq).2.symm.trans hqp⟩

/-
  Built statements are equal when their variables agree and
  they contain the same properties.
-/
theorem beq_iff_contains
    {s t : Statement}
    (hs : s.Built)
    (ht : t.Built) :
    (s == t) = true ↔
      s.var.Agree t.var ∧
        ∀ p : Property,
          p.Built →
            (s.properties.contains p = true ↔
              t.properties.contains p = true) := by
  rw [beq_iff_matched hs ht,
    ← Property.forall_matched_iff_matched
      (fun _ => hs.of_mem_toList)
      (fun _ => ht.of_mem_toList)]
  apply and_congr_right
  intro _
  apply forall₂_congr
  intro p hp
  rw [hs.contains_iff_beq hp, ht.contains_iff_beq hp]

/-
  What histories leave is equal when the variables agree and
  each property of one history equals a property of the
  other one.
-/
theorem beq_ofHistory_iff
    {v w : Variable}
    {ps qs : List Property}
    (hps : ∀ p ∈ ps, p.Built)
    (hqs : ∀ q ∈ qs, q.Built) :
    (ofHistory v ps == ofHistory w qs) = true ↔
      v.Agree w ∧
        (∀ p ∈ ps, ∃ q ∈ qs, (p == q) = true) ∧
        (∀ q ∈ qs, ∃ p ∈ ps, (q == p) = true) := by
  rw [beq_iff_contains (built_ofHistory v hps)
      (built_ofHistory w hqs),
    var_ofHistory, var_ofHistory,
    ← Property.forall_matched_iff_matched hps hqs]
  apply and_congr_right
  intro _
  apply forall₂_congr
  intro r hr
  rw [contains_ofHistory v hps hr,
    contains_ofHistory w hqs hr]

/-
  Appending equal properties to equal statements gives equal
  statements.
-/
theorem beq_append
    {s t : Statement}
    {p q : Property}
    (hs : s.Built)
    (ht : t.Built)
    (hp : p.Built)
    (hq : q.Built)
    (hStatements : (s == t) = true)
    (hProperties : (p == q) = true) :
    ((s.append p).value == (t.append q).value) = true := by
  rcases (beq_iff_contains hs ht).mp hStatements with
    ⟨hAgree, hContains⟩
  have hEqual :
      ∀ r : Property,
        r.Built → ((p == r) = true ↔ (q == r) = true) := by
    intro r hr
    rw [Property.beq_eq_plainEqual hp hq] at hProperties
    rw [Property.beq_eq_plainEqual hp hr,
      Property.beq_eq_plainEqual hq hr]
    constructor
    · exact Property.plainEqual_trans
        (Property.plainEqual_symm hProperties)
    · exact Property.plainEqual_trans hProperties
  apply (beq_iff_contains (.append hs hp)
    (.append ht hq)).mpr
  refine ⟨hAgree, ?_⟩
  intro r hr
  rw [contains_append hs hp hr, contains_append ht hq hr,
    hContains r hr, hEqual r hr]

end Statement

end GraphSchema

------------------------------------------------------------
-- Equal Parts
------------------------------------------------------------

namespace GraphSchema

theorem Property.beq_of_related
    {p q : Property}
    (h :
      Related
        (fun s t => (s == t) = true)
        (fun x y => (x == y) = true)
        p q) :
    (p == q) = true :=
  (equal_iff_related p q).mpr h

theorem Pattern.beq_of_related
    {p q : Pattern}
    (h :
      Related
        (fun s t => (s == t) = true)
        (fun x y => (x == y) = true)
        p q) :
    (p == q) = true :=
  (equal_iff_related p q).mpr h

/-
  Whatever the constructors of properties and patterns make
  of a statement, they make an equal one of an equal
  statement.
-/
theorem Statement.beq_constructors
    {s t : Statement}
    (h : (s == t) = true) :
    (∀ direct,
      (Property.sub s direct == .sub t direct) = true) ∧
    (∀ isKey defaultValue defaultValue',
      (Property.has s isKey defaultValue ==
        .has t isKey defaultValue') = true) ∧
    (∀ required,
      (Property.plays s required == .plays t required) =
        true) ∧
    (Property.relates s none == .relates t none) = true ∧
    (∀ u v : Statement,
      (u == v) = true →
        (Property.relates s (some u) ==
          .relates t (some v)) = true) ∧
    (Pattern.statement s == .statement t) = true := by
  have hSelf :
      List.Forall₂ (fun u v : Statement => (u == v) = true)
        [s] [t] :=
    .cons h .nil
  refine ⟨?_, ?_, ?_, ?_, ?_, ?_⟩
  · intro direct
    exact Property.beq_of_related ⟨rfl, hSelf, .nil⟩
  · intro isKey defaultValue defaultValue'
    exact Property.beq_of_related ⟨rfl, hSelf, .nil⟩
  · intro required
    exact Property.beq_of_related ⟨rfl, hSelf, .nil⟩
  · exact Property.beq_of_related ⟨rfl, hSelf, .nil⟩
  · intro u v huv
    exact Property.beq_of_related
      ⟨rfl, .cons h (.cons huv .nil), .nil⟩
  · exact Pattern.beq_of_related ⟨rfl, hSelf, .nil⟩

/-
  Whatever the constructors of properties and patterns make
  of patterns, they make an equal one of equal patterns.
-/
theorem Pattern.beq_constructors :
    (∀ x y : Pattern,
      (x == y) = true →
        (Property.premise x == .premise y) = true ∧
        (Property.conclusion x == .conclusion y) = true ∧
        (Pattern.negation x == .negation y) = true) ∧
    (∀ xs ys : List Pattern,
      List.Forall₂ (fun x y => (x == y) = true) xs ys →
        (Pattern.conjunction xs == .conjunction ys) =
          true ∧
        (Pattern.disjunction xs == .disjunction ys) =
          true) := by
  constructor
  · intro x y h
    have hSelf :
        List.Forall₂ (fun x y : Pattern => (x == y) = true)
          [x] [y] :=
      .cons h .nil
    refine ⟨?_, ?_, ?_⟩
    · exact Property.beq_of_related ⟨rfl, .nil, hSelf⟩
    · exact Property.beq_of_related ⟨rfl, .nil, hSelf⟩
    · exact Pattern.beq_of_related ⟨rfl, .nil, hSelf⟩
  · intro xs ys h
    constructor
    · exact Pattern.beq_of_related ⟨rfl, .nil, h⟩
    · exact Pattern.beq_of_related ⟨rfl, .nil, h⟩

end GraphSchema

------------------------------------------------------------
-- Order and Repetition
------------------------------------------------------------

namespace GraphSchema

namespace Statement

/-
  Neither the order of appends nor their repetition matters:
  what two histories leave is equal when the variables are
  the same or anonymous and each property of one history
  equals a property of the other.  Appending equal
  properties to equal statements gives equal statements, and
  a constructor of properties or patterns makes equal ones
  of equal parts, whatever default values it is given.
-/
theorem equality_of_histories [Fingerprint] :
    (∀ (v w : Variable) (ps qs : List Property),
      (∀ p ∈ ps, p.Built) →
      (∀ q ∈ qs, q.Built) →
        ((ofHistory v ps == ofHistory w qs) = true ↔
          ((¬ v.IsUserDefined ∧ ¬ w.IsUserDefined) ∨
            v = w) ∧
          (∀ p ∈ ps, ∃ q ∈ qs, (p == q) = true) ∧
          (∀ q ∈ qs, ∃ p ∈ ps, (q == p) = true))) ∧
    (∀ (s t : Statement) (p q : Property),
      s.Built →
      t.Built →
      p.Built →
      q.Built →
      (s == t) = true →
      (p == q) = true →
        ((s.append p).value == (t.append q).value) = true) ∧
    (∀ s t : Statement,
      (s == t) = true →
        (∀ direct,
          (Property.sub s direct == .sub t direct) =
            true) ∧
        (∀ isKey defaultValue defaultValue',
          (Property.has s isKey defaultValue ==
            .has t isKey defaultValue') = true) ∧
        (∀ required,
          (Property.plays s required ==
            .plays t required) = true) ∧
        (Property.relates s none == .relates t none) =
          true ∧
        (∀ u v : Statement,
          (u == v) = true →
            (Property.relates s (some u) ==
              .relates t (some v)) = true) ∧
        (Pattern.statement s == .statement t) = true) ∧
    (∀ x y : Pattern,
      (x == y) = true →
        (Property.premise x == .premise y) = true ∧
        (Property.conclusion x == .conclusion y) = true ∧
        (Pattern.negation x == .negation y) = true) ∧
    (∀ xs ys : List Pattern,
      List.Forall₂ (fun x y => (x == y) = true) xs ys →
        (Pattern.conjunction xs == .conjunction ys) =
          true ∧
        (Pattern.disjunction xs == .disjunction ys) =
          true) := by
  refine ⟨?_, ?_, fun s t => beq_constructors,
    Pattern.beq_constructors⟩
  · intro v w ps qs hps hqs
    rw [beq_ofHistory_iff hps hqs, Variable.agree_iff]
  · intro s t p q hs ht hp hq
    exact beq_append hs ht hp hq

/-
  Statements on anonymous variables that were called person
  and abstract in another order, one of them twice, are
  equal.  So they are after they play equal roles, and
  inside of conjunctions.
-/
theorem equality_of_histories_repeated :
    ((@ofHistory .mixing (.anonymous "1")
        [.type "person", .abstract] ==
      @ofHistory .mixing (.anonymous "2")
        [.abstract, .type "person", .abstract]) = true) ∧
    ((@append .mixing
        (@ofHistory .mixing (.anonymous "1")
          [.type "person", .abstract])
        (@Property.ownsAge .mixing "3" none)).value ==
      (@append .mixing
        (@ofHistory .mixing (.anonymous "2")
          [.abstract, .type "person", .abstract])
        (@Property.ownsAge .mixing "4"
          (some (.boolean true)))).value) = true ∧
    ((Pattern.conjunction
        [.statement (@ofHistory .mixing (.anonymous "1")
          [.type "person", .abstract])] ==
      .conjunction
        [.statement (@ofHistory .mixing (.anonymous "2")
          [.abstract, .type "person", .abstract])]) =
        true) := by
  let _ : Fingerprint := .mixing
  have hFirst :
      ∀ p ∈ [Property.type "person", .abstract], p.Built := by
    simp [Property.Built.type, Property.Built.abstract]
  have hSecond :
      ∀ p ∈ [Property.abstract, .type "person", .abstract],
        p.Built := by
    simp [Property.Built.type, Property.Built.abstract]
  rcases equality_of_histories with
    ⟨hHistories, hAppend, hStatement, _, hPatterns⟩
  have hEqual :=
    (hHistories (.anonymous "1") (.anonymous "2") _ _
      hFirst hSecond).mpr (by decide)
  refine ⟨hEqual, ?_, ?_⟩
  · exact hAppend _ _ _ _
      (built_ofHistory _ hFirst) (built_ofHistory _ hSecond)
      (Property.built_ownsAge "3" none)
      (Property.built_ownsAge "4" (some (.boolean true)))
      hEqual (by decide)
  · rcases hStatement _ _ hEqual with ⟨_, _, _, _, _, hLeaf⟩
    exact (hPatterns _ _ (.cons hLeaf .nil)).1

end Statement

end GraphSchema
