import GraphSchema.Proofs.History

/-
  The laws of equality: on everything that can be built it
  is an equivalence relation that respects hashing, and it
  is what a comparison without fingerprints would find.

  Key theorems include:
    * `Statement.equality_laws`
    * `Statement.indexed_iff_plain`
-/

------------------------------------------------------------
-- Equivalence and Hashing
------------------------------------------------------------

namespace GraphSchema

/-
  Equality of built statements, of built properties and of
  built patterns is an equivalence relation.  Equal ones
  feed the same to every hash function, also to the one
  that computes the fingerprints of properties.
-/
theorem Statement.equality_laws [Fingerprint] :
    Equivalence (fun s t : { s : Statement // s.Built } =>
      (s.val == t.val) = true) ∧
    Equivalence (fun p q : { p : Property // p.Built } =>
      (p.val == q.val) = true) ∧
    Equivalence (fun p q : { p : Pattern // p.Built } =>
      (p.val == q.val) = true) ∧
    (∀ s t : Statement,
      s.Built →
      t.Built →
      (s == t) = true →
        s.feed = t.feed ∧
          ∀ hash : List FeedItem → UInt64,
            hash s.feed = hash t.feed) ∧
    (∀ p q : Property,
      p.Built →
      q.Built →
      (p == q) = true →
        p.feed = q.feed ∧
          (∀ hash : List FeedItem → UInt64,
            hash p.feed = hash q.feed) ∧
          p.fingerprint = q.fingerprint) ∧
    (∀ p q : Pattern,
      p.Built →
      q.Built →
      (p == q) = true →
        p.feed = q.feed ∧
          ∀ hash : List FeedItem → UInt64,
            hash p.feed = hash q.feed) := by
  refine ⟨Statement.beq_equivalence,
    Property.beq_equivalence, Pattern.beq_equivalence,
    ?_, ?_, ?_⟩
  · intro s t hs ht h
    have hFeed : s.feed = t.feed := feed_eq_of_beq hs ht h
    refine ⟨hFeed, ?_⟩
    intro hash
    rw [hFeed]
  · intro p q hp hq h
    have hFeed : p.feed = q.feed :=
      Property.feed_eq_of_beq hp hq h
    refine ⟨hFeed, ?_, ?_⟩
    · intro hash
      rw [hFeed]
    · exact congrArg Fingerprint.ofFeed hFeed
  · intro p q hp hq h
    have hFeed : p.feed = q.feed :=
      Pattern.feed_eq_of_beq hp hq h
    refine ⟨hFeed, ?_⟩
    intro hash
    rw [hFeed]

/-
  Two statements that own an age under different generated
  names, once with a default that is no number, feed the
  same although their properties were appended in another
  order and one of them twice.
-/
theorem Statement.equality_laws_reordered :
    ((@ofHistory .mixing (.named "x")
        [.abstract, @Property.ownsAge .mixing "1" none] ==
      @ofHistory .mixing (.named "$x")
        [@Property.ownsAge .mixing "2"
            (some (.double ⟨0x7FF8000000000000⟩)),
          .abstract, @Property.ownsAge .mixing "3" none]) =
        true) ∧
    (@ofHistory .mixing (.named "x")
        [.abstract, @Property.ownsAge .mixing "1" none]).feed =
      (@ofHistory .mixing (.named "$x")
        [@Property.ownsAge .mixing "2"
            (some (.double ⟨0x7FF8000000000000⟩)),
          .abstract,
          @Property.ownsAge .mixing "3" none]).feed := by
  let _ : Fingerprint := .mixing
  have hFirst :
      (ofHistory (.named "x")
        [.abstract, Property.ownsAge "1" none]).Built := by
    apply built_ofHistory
    simp [Property.built_ownsAge, Property.Built.abstract]
  have hSecond :
      (ofHistory (.named "$x")
        [Property.ownsAge "2"
            (some (.double ⟨0x7FF8000000000000⟩)),
          .abstract, Property.ownsAge "3" none]).Built := by
    apply built_ofHistory
    simp [Property.built_ownsAge, Property.Built.abstract]
  have hEqual :
      (ofHistory (.named "x")
          [.abstract, Property.ownsAge "1" none] ==
        ofHistory (.named "$x")
          [Property.ownsAge "2"
              (some (.double ⟨0x7FF8000000000000⟩)),
            .abstract, Property.ownsAge "3" none]) =
        true := by
    decide
  exact ⟨hEqual,
    (equality_laws.2.2.2.1 _ _ hFirst hSecond hEqual).1⟩

end GraphSchema

------------------------------------------------------------
-- Agreement With Plain Comparison
------------------------------------------------------------

namespace GraphSchema

/-
  Whatever fingerprints there are, however many of them
  collide: a property is contained when one of the
  properties is plainly equal to it, and statements are
  equal when their variables agree and each has a plainly
  equal property for every property of the other.
-/
theorem Statement.indexed_iff_plain
    [Fingerprint]
    {s t : Statement}
    {p : Property}
    (hs : s.Built)
    (ht : t.Built)
    (hp : p.Built) :
    (s.properties.contains p = true ↔
      ∃ q ∈ s.properties.toList,
        q.plainEqual p = true) ∧
    ((s == t) = true ↔
      ((¬ s.var.IsUserDefined ∧ ¬ t.var.IsUserDefined) ∨
        (s.var.name = t.var.name ∧
          s.var.kind = t.var.kind)) ∧
      (∀ q ∈ s.properties.toList,
        ∃ r ∈ t.properties.toList,
          q.plainEqual r = true) ∧
      (∀ r ∈ t.properties.toList,
        ∃ q ∈ s.properties.toList,
          r.plainEqual q = true)) ∧
    (s == t) = s.plainEqual t := by
  refine ⟨hs.wellFormed.contains_iff hp, ?_,
    beq_eq_plainEqual hs ht⟩
  rw [beq_eq_plainEqual hs ht, plainEqual_iff,
    Variable.agree_iff, Variable.eq_iff]
  constructor
  · rintro ⟨hVar, hForth, hBack⟩
    refine ⟨hVar, hForth, ?_⟩
    intro r hr
    rcases hBack r hr with ⟨q, hq, hqr⟩
    exact ⟨q, hq, Property.plainEqual_symm hqr⟩
  · rintro ⟨hVar, hForth, hBack⟩
    refine ⟨hVar, hForth, ?_⟩
    intro r hr
    rcases hBack r hr with ⟨q, hq, hrq⟩
    exact ⟨q, hq, Property.plainEqual_symm hrq⟩

/-
  Even if all fingerprints are the same, another regular
  expression is not contained, and the order of properties
  does not matter.
-/
theorem Statement.indexed_iff_plain_colliding :
    ¬ (@Properties.contains ⟨fun _ => 0⟩
        (@ofHistory ⟨fun _ => 0⟩ (.named "x")
          [.abstract, .regex "a+"]).properties
        (.regex "b+")) = true ∧
    (@ofHistory ⟨fun _ => 0⟩ (.named "x")
        [.abstract, .regex "a+"] ==
      @ofHistory ⟨fun _ => 0⟩ (.named "x")
        [.regex "a+", .abstract]) = true := by
  let _ : Fingerprint := ⟨fun _ => 0⟩
  have hFirst :
      (ofHistory (.named "x")
        [.abstract, .regex "a+"]).Built := by
    apply built_ofHistory
    simp [Property.Built.regex, Property.Built.abstract]
  have hSecond :
      (ofHistory (.named "x")
        [.regex "a+", .abstract]).Built := by
    apply built_ofHistory
    simp [Property.Built.regex, Property.Built.abstract]
  rcases indexed_iff_plain hFirst hSecond (.regex "b+") with
    ⟨hContains, hEqual, _⟩
  constructor
  · intro hFound
    have hNone :
        ¬ ∃ q ∈
            (ofHistory (.named "x")
              [.abstract, .regex "a+"]).properties.toList,
          q.plainEqual (.regex "b+") = true := by
      decide
    exact hNone (hContains.mp hFound)
  · apply hEqual.mpr
    decide

end GraphSchema
