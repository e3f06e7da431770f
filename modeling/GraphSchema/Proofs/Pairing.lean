import GraphSchema.Proofs.BuildOrder
import GraphSchema.Proofs.Listing
import GraphSchema.Proofs.Traversal

/-
  This file shows that equality is respected by everything
  that looks at the structure of statements: the statements
  inside of equal statements are paired one to one with
  equal ones, and so are the properties, which are of the
  same kind and refer to equal statements in the same order.

  Key definitions include:
    * `Property.Corresponds`

  Key theorems include:
    * `Pattern.forall₂_statements_of_equal`
    * `Property.corresponds_of_beq`
    * `Statement.paired_innerStatements`
    * `Statement.equality_is_respected`
-/

------------------------------------------------------------
-- Corresponding Properties
------------------------------------------------------------

namespace GraphSchema

/-
  Two properties correspond when they have one keyword, are
  both meant to be unique or not, and refer to as many
  statements, of which equal ones stand in the same place.
-/
structure Property.Corresponds (p q : Property) : Prop where
  keyword_eq : p.keyword = q.keyword
  isUnique_iff : p.IsUnique ↔ q.IsUnique
  types :
    List.Forall₂ (fun s t => (s == t) = true)
      p.types q.types
  statements :
    List.Forall₂ (fun s t => (s == t) = true)
      p.statements q.statements

theorem Property.keyword_eq_of_head_eq
    {p q : Property}
    (h : p.head = q.head) : p.keyword = q.keyword := by
  cases p <;> cases q <;> simp_all [head, keyword]

theorem Property.isUnique_iff_of_head_eq
    {p q : Property}
    (h : p.head = q.head) : p.IsUnique ↔ q.IsUnique := by
  cases p <;> cases q <;> simp_all [head, IsUnique]

theorem Pattern.forall₂_statements_of_equal
    {x y : Pattern}
    (h : x.equal y = true) :
    List.Forall₂ (fun s t => (s == t) = true)
      x.statements y.statements := by
  have hHereditary :
      Hereditary
        (fun _ => True)
        (fun _ => True)
        (fun x => ∀ y : Pattern,
          x.equal y = true →
            List.Forall₂ (fun s t => (s == t) = true)
              x.statements y.statements) := by
    refine ⟨fun _ _ _ => trivial, fun _ _ => trivial, ?_⟩
    intro x _ hParts y h
    rcases (equal_iff_related x y).mp h with
      ⟨_, hLeaves, hRelated⟩
    rw [statements_eq_append, statements_eq_append]
    apply List.rel_append hLeaves
    apply forall₂_flatMap
    apply forall₂_imp_of_mem hRelated
    intro z hz w _ hzw
    exact hParts z hz w hzw
  exact hHereditary.ofPattern x y h

theorem Property.corresponds_of_beq
    {p q : Property}
    (h : (p == q) = true) : p.Corresponds q := by
  rcases (equal_iff_related p q).mp h with
    ⟨hHead, hTypes, hPatterns⟩
  refine ⟨keyword_eq_of_head_eq hHead,
    isUnique_iff_of_head_eq hHead, hTypes, ?_⟩
  rw [statements_eq_append, statements_eq_append]
  apply List.rel_append hTypes
  apply forall₂_flatMap
  apply forall₂_imp_of_mem hPatterns
  intro x _ y _ hxy
  exact Pattern.forall₂_statements_of_equal hxy

end GraphSchema

------------------------------------------------------------
-- Paired Listings
------------------------------------------------------------

namespace GraphSchema

/-
  Statements with paired listings, one by one, and patterns
  with paired listings are listed as pairs together.
-/
private theorem paired_listings
    {R : Statement → Statement → Prop}
    {ss ts : List Statement}
    {xs ys : List Pattern}
    (hStatements :
      List.Forall₂ (fun s t => Paired R s.listing t.listing)
        ss ts)
    (hPatterns :
      List.Forall₂ (fun x y => Paired R x.listing y.listing)
        xs ys) :
    Paired R
      (ss.flatMap Statement.listing ++
        xs.flatMap Pattern.listing)
      (ts.flatMap Statement.listing ++
        ys.flatMap Pattern.listing) :=
  .append (.flatMap (.of_forall₂ hStatements))
    (.flatMap (.of_forall₂ hPatterns))

variable [Fingerprint]

/-
  Whatever is plainly equal has paired listings.  Statements
  are the only place where the order may differ: their
  properties are paired because none of them is repeated.
-/
private theorem hereditary_paired_listing :
    Hereditary
      (fun p => ∀ q : Property,
        p.Built → q.Built →
          p.plainEqual q = true →
            Paired (fun s t => s.plainEqual t = true)
              p.listing q.listing)
      (fun s => ∀ t : Statement,
        s.Built → t.Built →
          s.plainEqual t = true →
            Paired (fun s t => s.plainEqual t = true)
              s.listing t.listing)
      (fun x => ∀ y : Pattern,
        x.Built → y.Built →
          x.plainEqual y = true →
            Paired (fun s t => s.plainEqual t = true)
              x.listing y.listing) where
  property := by
    intro p hTypes hPatterns q hp hq hpq
    rcases (p.plainEqual_iff_related q).mp hpq with
      ⟨_, hStatements, hRelated⟩
    rw [p.listing_eq_append, q.listing_eq_append]
    apply paired_listings
    · apply forall₂_imp_of_mem hStatements
      intro s hs t ht hst
      exact hTypes s hs t (hp.of_mem_types hs)
        (hq.of_mem_types ht) hst
    · apply forall₂_imp_of_mem hRelated
      intro x hx y hy hxy
      exact hPatterns x hx y (hp.of_mem_patterns hx)
        (hq.of_mem_patterns hy) hxy
  statement := by
    intro s hProperties t hs ht hst
    have hPaired :=
      Statement.paired_of_plainEqual hs.distinct
        ht.distinct hst
    rw [s.listing_eq_cons, t.listing_eq_cons]
    refine .cons ?_ (.flatMap ?_)
    · exact hst
    · apply hPaired.imp_of_mem
      intro p hp q hq hpq
      exact hProperties p hp q (hs.of_mem_toList hp)
        (ht.of_mem_toList hq) hpq
  pattern := by
    intro x hLeaves hParts y hx hy hxy
    rcases (x.plainEqual_iff_related y).mp hxy with
      ⟨_, hStatements, hRelated⟩
    rw [x.listing_eq_append, y.listing_eq_append]
    apply paired_listings
    · apply forall₂_imp_of_mem hStatements
      intro s hs t ht hst
      exact hLeaves s hs t (hx.of_mem_leaves hs)
        (hy.of_mem_leaves ht) hst
    · apply forall₂_imp_of_mem hRelated
      intro z hz w hw hzw
      exact hParts z hz w (hx.of_mem_parts hz)
        (hy.of_mem_parts hw) hzw

namespace Statement

/-
  The statements inside of equal built statements are
  paired with equal ones.
-/
theorem paired_innerStatements
    {s t : Statement}
    (hs : s.Built)
    (ht : t.Built)
    (h : (s == t) = true) :
    Paired (fun u v => (u == v) = true)
      s.innerStatements t.innerStatements := by
  rw [beq_eq_plainEqual hs ht] at h
  have hListings :=
    hereditary_paired_listing.ofStatement s t hs ht h
  rw [← innerStatements_eq_listing,
    ← innerStatements_eq_listing] at hListings
  apply hListings.imp_of_mem
  intro u hu v hv huv
  rw [beq_eq_plainEqual (hs.of_mem_innerStatements hu)
    (ht.of_mem_innerStatements hv)]
  exact huv

/-
  The properties of equal built statements are paired with
  equal ones.
-/
theorem paired_properties
    {s t : Statement}
    (hs : s.Built)
    (ht : t.Built)
    (h : (s == t) = true) :
    Paired (fun p q => (p == q) = true)
      s.properties.toList t.properties.toList := by
  rw [beq_eq_plainEqual hs ht] at h
  have hPaired :=
    paired_of_plainEqual hs.distinct ht.distinct h
  apply hPaired.imp_of_mem
  intro p hp q hq hpq
  rw [Property.beq_eq_plainEqual (hs.of_mem_toList hp)
    (ht.of_mem_toList hq)]
  exact hpq

end Statement

end GraphSchema

------------------------------------------------------------
-- Structure of Equal Statements
------------------------------------------------------------

namespace GraphSchema

namespace Statement

/-
  Equal built statements have equally many statements inside
  of them, which are paired one to one with equal ones, and
  their properties are paired one to one with equal ones,
  which correspond: they have the same keyword, both or none
  of them is meant to be unique, and they refer to equal
  statements, one by one.
-/
theorem equality_is_respected
    [Fingerprint]
    {s t : Statement}
    (hs : s.Built)
    (ht : t.Built)
    (h : (s == t) = true) :
    s.innerStatements.length = t.innerStatements.length ∧
    Paired (fun u v => (u == v) = true)
      s.innerStatements t.innerStatements ∧
    Paired (fun p q => (p == q) = true ∧ p.Corresponds q)
      s.properties.toList t.properties.toList := by
  have hInner := paired_innerStatements hs ht h
  refine ⟨hInner.length_eq, hInner, ?_⟩
  apply (paired_properties hs ht h).imp_of_mem
  intro p _ q _ hpq
  exact ⟨hpq, Property.corresponds_of_beq hpq⟩

/-
  Two statements that own an age and have a premise about
  something abstract that owns an age as well correspond in
  every order of their properties, at both depths, and
  whatever names were generated.
-/
theorem equality_is_respected_reordered :
    Paired (fun p q => (p == q) = true ∧ p.Corresponds q)
      (@ofHistory .mixing (.anonymous "1")
        [@Property.ownsAge .mixing "2" none,
          .premise (.negation (.statement
            (@ofHistory .mixing (.named "x")
              [.abstract,
                @Property.ownsAge .mixing "3" none])))]
        ).properties.toList
      (@ofHistory .mixing (.anonymous "4")
        [.premise (.negation (.statement
            (@ofHistory .mixing (.named "x")
              [@Property.ownsAge .mixing "5"
                  (some (.boolean true)),
                .abstract]))),
          @Property.ownsAge .mixing "6" none]
        ).properties.toList := by
  let _ : Fingerprint := .mixing
  have hFirst :
      (ofHistory (.anonymous "1")
        [Property.ownsAge "2" none,
          .premise (.negation (.statement
            (ofHistory (.named "x")
              [.abstract,
                Property.ownsAge "3" none])))]).Built := by
    apply built_ofHistory
    intro p hp
    rcases List.mem_pair.mp hp with rfl | rfl
    · exact Property.built_ownsAge "2" none
    · apply Property.Built.premise
      apply Pattern.Built.negation
      apply Pattern.Built.statement
      apply built_ofHistory
      simp [Property.built_ownsAge, Property.Built.abstract]
  have hSecond :
      (ofHistory (.anonymous "4")
        [.premise (.negation (.statement
            (ofHistory (.named "x")
              [Property.ownsAge "5" (some (.boolean true)),
                .abstract]))),
          Property.ownsAge "6" none]).Built := by
    apply built_ofHistory
    intro p hp
    rcases List.mem_pair.mp hp with rfl | rfl
    · apply Property.Built.premise
      apply Pattern.Built.negation
      apply Pattern.Built.statement
      apply built_ofHistory
      simp [Property.built_ownsAge, Property.Built.abstract]
    · exact Property.built_ownsAge "6" none
  exact (equality_is_respected hFirst hSecond
    (by decide)).2.2

end Statement

end GraphSchema
