import GraphSchema.Proofs.PlainEquality
import GraphSchema.Proofs.WellFormed

/-
  This file shows that equality of built statements, which
  is found by fingerprints, counts and one inclusion, is the
  same as plain equality, and that it respects feeds.

  Key definitions include:
    * `Property.Identified`
    * `Statement.Identified`
    * `Pattern.Identified`

  Key theorems include:
    * `Statement.Built.distinct`
    * `Statement.equal_of_plainEqual`
    * `Statement.beq_eq_plainEqual`
    * `Statement.beq_equivalence`
    * `Statement.beq_eq_indexedEqual`
-/

------------------------------------------------------------
-- Feeds of Related Parts
------------------------------------------------------------

namespace GraphSchema

theorem Property.feed_eq_of_related
    {p q : Property}
    (h :
      p.Related
        (fun s t => s.feed = t.feed)
        (fun x y => x.feed = y.feed) q) :
    p.feed = q.feed := by
  rcases h with ⟨hHead, hTypes, hPatterns⟩
  cases p <;> cases q <;> simp [head] at hHead
  case relates.relates s u t v =>
    cases u <;> cases v <;> simp_all [types, feed]
  all_goals simp_all [types, patterns, feed]

theorem Pattern.listFeed_eq_of_forall₂
    {ps qs : List Pattern}
    (h : List.Forall₂ (fun x y => x.feed = y.feed) ps qs) :
    listFeed ps = listFeed qs := by
  induction h with
  | nil =>
      rfl
  | cons hHead hTail ih =>
      simp only [listFeed]
      rw [hHead, ih]

/- A pattern with parts of the same feeds has one feed. -/
theorem Pattern.feed_eq_of_related
    {p q : Pattern}
    (h :
      p.Related
        (fun s t => s.feed = t.feed)
        (fun x y => x.feed = y.feed) q) :
    p.feed = q.feed := by
  rcases h with ⟨hHead, hLeaves, hParts⟩
  cases p <;> cases q <;> simp [head] at hHead
  case
    conjunction.conjunction ps qs
    | disjunction.disjunction ps qs =>
    have hLength : ps.length = qs.length :=
      hParts.length_eq
    have hFeeds : listFeed ps = listFeed qs :=
      listFeed_eq_of_forall₂ hParts
    simp only [feed, hLength, hFeeds]
  all_goals simp_all [leaves, parts, feed]

/-
  Statements with agreeing variables and the same
  fingerprints in any order have one feed.
-/
theorem Statement.feed_eq_of_perm
    {s t : Statement}
    (hAgree : s.var.Agree t.var)
    (hCount : s.properties.count = t.properties.count)
    (hPerm :
      (s.properties.newestFirst.map Entry.fingerprint).Perm
        (t.properties.newestFirst.map Entry.fingerprint)) :
    s.feed = t.feed := by
  have hSum : s.fingerprintSum = t.fingerprintSum := by
    have hComm :
        RightCommutative
          (fun sum w : UInt64 => sum + w) :=
      ⟨fun a b c => by
        rw [UInt64.add_assoc, UInt64.add_comm b c,
          ← UInt64.add_assoc]⟩
    simpa [fingerprintSum, List.foldl_map] using
      hPerm.foldl_eq (f := fun sum w => sum + w) (0 : UInt64)
  unfold feed
  rw [hCount, hSum]
  rcases (Variable.agree_iff s.var t.var).mp hAgree with
    ⟨hs, ht⟩ | hVar
  · simp [hs, ht]
  · rw [hVar]

end GraphSchema

------------------------------------------------------------
-- Distinct Properties
------------------------------------------------------------

namespace GraphSchema

variable [Fingerprint]

/-
  All built properties that are plainly equal to a property
  are equal to each other and have one feed.
-/
def Property.Identified (p : Property) : Prop :=
  ∀ q r : Property,
    q.Built →
    r.Built →
    p.plainEqual q = true →
    p.plainEqual r = true →
    q.equal r = true ∧ q.feed = r.feed

/-
  All built statements that are plainly equal to a statement
  are equal to each other and have one feed.
-/
def Statement.Identified (s : Statement) : Prop :=
  ∀ t u : Statement,
    t.Built →
    u.Built →
    s.plainEqual t = true →
    s.plainEqual u = true →
    t.equal u = true ∧ t.feed = u.feed

/-
  All built patterns that are plainly equal to a pattern are
  equal to each other and have one feed.
-/
def Pattern.Identified (p : Pattern) : Prop :=
  ∀ q r : Pattern,
    q.Built →
    r.Built →
    p.plainEqual q = true →
    p.plainEqual r = true →
    q.equal r = true ∧ q.feed = r.feed

/-
  Well-formed properties are distinct if each is plainly
  equal to one that identifies what is equal to it.
-/
theorem Properties.WellFormed.distinct_of_identified
    {ps : Properties}
    (h : ps.WellFormed)
    (hIdentified :
      ∀ q ∈ ps.toList,
        ∃ p : Property,
          p.Identified ∧ p.plainEqual q = true) :
    Property.Distinct ps.toList := by
  rw [Property.Distinct, Properties.toList, List.pairwise_reverse,
    List.pairwise_map]
  apply h.distinct.imp_of_mem
  intro newer older hNewer hOlder hDistinct
  apply Bool.eq_false_iff.mpr
  intro hPlain
  rcases hIdentified older.property
      ((ps.mem_toList_iff _).mpr ⟨older, hOlder, rfl⟩) with
    ⟨p, hp, hpOlder⟩
  rcases hp older.property newer.property
      (h.built older hOlder) (h.built newer hNewer) hpOlder
      (Property.plainEqual_trans hpOlder hPlain) with
    ⟨hEqual, hFeed⟩
  have hFingerprint : older.fingerprint = newer.fingerprint := by
    rw [h.fingerprint_eq older hOlder,
      h.fingerprint_eq newer hNewer]
    exact congrArg Fingerprint.ofFeed hFeed
  rw [hDistinct hFingerprint] at hEqual
  cases hEqual

end GraphSchema

------------------------------------------------------------
-- Plain Equality Is Recognised
------------------------------------------------------------

namespace GraphSchema

variable [Fingerprint]

/-
  Plainly equal statements with distinct properties are
  equal and have one feed, if that is known of their
  properties.
-/
theorem Statement.equal_of_plainEqual_of_distinct
    {s t : Statement}
    (hs : s.properties.WellFormed)
    (ht : t.properties.WellFormed)
    (hDistinct : Property.Distinct s.properties.toList)
    (hDistinct' : Property.Distinct t.properties.toList)
    (hPlain : s.plainEqual t = true)
    (hProperties :
      ∀ p ∈ s.properties.toList,
        ∀ q ∈ t.properties.toList,
          p.plainEqual q = true →
            p.equal q = true ∧ p.feed = q.feed) :
    s.equal t = true ∧ s.feed = t.feed := by
  have hPaired :=
    paired_of_plainEqual hDistinct hDistinct' hPlain
  rcases (plainEqual_iff s t).mp hPlain with
    ⟨hAgree, hForth, _⟩
  have hCount : s.properties.count = t.properties.count := by
    rw [← hs.length_toList, ← ht.length_toList]
    exact hPaired.length_eq
  constructor
  · apply (equal_iff s t).mpr
    refine ⟨hAgree, hCount, ?_⟩
    intro e he
    have heMem : e.property ∈ s.properties.toList :=
      (Properties.mem_toList_iff _ _).mpr ⟨e, he, rfl⟩
    rcases hForth e.property heMem with ⟨q, hq, heq⟩
    rcases hProperties e.property heMem q hq heq with
      ⟨hEqual, hFeed⟩
    rcases (Properties.mem_toList_iff _ q).mp hq with
      ⟨f, hf, rfl⟩
    refine ⟨f, hf, ?_, hEqual⟩
    rw [ht.fingerprint_eq f hf, hs.fingerprint_eq e he]
    exact congrArg Fingerprint.ofFeed hFeed.symm
  · apply feed_eq_of_perm hAgree hCount
    have hPerm :
        (s.properties.toList.map Property.fingerprint).Perm
          (t.properties.toList.map Property.fingerprint) := by
      apply hPaired.perm_map
      intro p hp q hq hpq
      exact congrArg Fingerprint.ofFeed
        (hProperties p hp q hq hpq).2
    exact hs.fingerprints_perm.trans
      (hPerm.trans ht.fingerprints_perm.symm)

/-
  Everything identifies what is plainly equal to it.  The
  induction is on a third value that both sides are plainly
  equal to, since the two sides have to be on equal terms:
  distinctness is needed of either statement.
-/
private theorem hereditary_identified :
    Hereditary
      Property.Identified
      Statement.Identified
      Pattern.Identified where
  property := by
    intro p hTypes hPatterns q r hq hr hpq hpr
    rw [Property.plainEqual_iff_related] at hpq hpr
    have hBoth :
        q.Related
          (fun t u => t.equal u = true ∧ t.feed = u.feed)
          (fun y z => y.equal z = true ∧ y.feed = z.feed)
          r := by
      apply hpq.span hpr
      · intro s hs t ht u hu hst hsu
        exact hTypes s hs t u (hq.of_mem_types ht)
          (hr.of_mem_types hu) hst hsu
      · intro x hx y hy z hz hxy hxz
        exact hPatterns x hx y z (hq.of_mem_patterns hy)
          (hr.of_mem_patterns hz) hxy hxz
    constructor
    · apply (Property.equal_iff_related q r).mpr
      exact hBoth.mono
        (fun _ _ _ _ h => h.1) (fun _ _ _ _ h => h.1)
    · apply Property.feed_eq_of_related
      exact hBoth.mono
        (fun _ _ _ _ h => h.2) (fun _ _ _ _ h => h.2)
  statement := by
    intro s hProperties t u ht hu hst hsu
    have hDistinct :
        ∀ w : Statement,
          w.Built →
          s.plainEqual w = true →
          Property.Distinct w.properties.toList := by
      intro w hw hsw
      apply hw.wellFormed.distinct_of_identified
      intro q hq
      rcases (s.plainEqual_iff w).mp hsw with ⟨_, _, hBack⟩
      rcases hBack q hq with ⟨p, hp, hpq⟩
      exact ⟨p, hProperties p hp, hpq⟩
    apply Statement.equal_of_plainEqual_of_distinct
      ht.wellFormed hu.wellFormed
      (hDistinct t ht hst) (hDistinct u hu hsu)
      (Statement.plainEqual_trans
        (Statement.plainEqual_symm hst) hsu)
    intro q hq r hr hqr
    rcases (s.plainEqual_iff t).mp hst with ⟨_, _, hBack⟩
    rcases hBack q hq with ⟨p, hp, hpq⟩
    exact hProperties p hp q r (ht.of_mem_toList hq)
      (hu.of_mem_toList hr) hpq
      (Property.plainEqual_trans hpq hqr)
  pattern := by
    intro p hLeaves hParts q r hq hr hpq hpr
    rw [Pattern.plainEqual_iff_related] at hpq hpr
    have hBoth :
        q.Related
          (fun t u => t.equal u = true ∧ t.feed = u.feed)
          (fun y z => y.equal z = true ∧ y.feed = z.feed)
          r := by
      apply hpq.span hpr
      · intro s hs t ht u hu hst hsu
        exact hLeaves s hs t u (hq.of_mem_leaves ht)
          (hr.of_mem_leaves hu) hst hsu
      · intro x hx y hy z hz hxy hxz
        exact hParts x hx y z (hq.of_mem_parts hy)
          (hr.of_mem_parts hz) hxy hxz
    constructor
    · apply (Pattern.equal_iff_related q r).mpr
      exact hBoth.mono
        (fun _ _ _ _ h => h.1) (fun _ _ _ _ h => h.1)
    · apply Pattern.feed_eq_of_related
      exact hBoth.mono
        (fun _ _ _ _ h => h.2) (fun _ _ _ _ h => h.2)

theorem Property.equal_of_plainEqual
    {p q : Property}
    (hp : p.Built)
    (hq : q.Built)
    (h : p.plainEqual q = true) :
    p.equal q = true ∧ p.feed = q.feed :=
  hereditary_identified.ofProperty p p q hp hq
    p.plainEqual_refl h

/- Plainly equal built statements are equal. -/
theorem Statement.equal_of_plainEqual
    {s t : Statement}
    (hs : s.Built)
    (ht : t.Built)
    (h : s.plainEqual t = true) :
    s.equal t = true ∧ s.feed = t.feed :=
  hereditary_identified.ofStatement s s t hs ht
    s.plainEqual_refl h

theorem Pattern.equal_of_plainEqual
    {p q : Pattern}
    (hp : p.Built)
    (hq : q.Built)
    (h : p.plainEqual q = true) :
    p.equal q = true ∧ p.feed = q.feed :=
  hereditary_identified.ofPattern p p q hp hq
    p.plainEqual_refl h

/- A built statement has distinct properties. -/
theorem Statement.Built.distinct
    {s : Statement}
    (h : s.Built) :
    Property.Distinct s.properties.toList := by
  apply h.wellFormed.distinct_of_identified
  intro p hp
  exact ⟨p, hereditary_identified.ofProperty p,
    p.plainEqual_refl⟩

end GraphSchema

------------------------------------------------------------
-- Equality Is Plain Equality
------------------------------------------------------------

namespace GraphSchema

variable [Fingerprint]

/-
  Equal statements have the same number of properties, so
  that one inclusion between distinct properties leaves none
  of the other statement out.
-/
private theorem hereditary_plainEqual_of_equal :
    Hereditary
      (fun p => ∀ q : Property,
        p.Built → q.Built →
          p.equal q = true → p.plainEqual q = true)
      (fun s => ∀ t : Statement,
        s.Built → t.Built →
          s.equal t = true → s.plainEqual t = true)
      (fun x => ∀ y : Pattern,
        x.Built → y.Built →
          x.equal y = true → x.plainEqual y = true) where
  property := by
    intro p hTypes hPatterns q hp hq hpq
    rw [Property.equal_iff_related] at hpq
    apply (Property.plainEqual_iff_related p q).mpr
    apply hpq.mono
    · intro s hs t ht hst
      exact hTypes s hs t (hp.of_mem_types hs)
        (hq.of_mem_types ht) hst
    · intro x hx y hy hxy
      exact hPatterns x hx y (hp.of_mem_patterns hx)
        (hq.of_mem_patterns hy) hxy
  statement := by
    intro s hProperties t hs ht hst
    rcases (s.equal_iff t).mp hst with
      ⟨hAgree, hCount, hFound⟩
    have hForth :
        ∀ p ∈ s.properties.toList,
          ∃ q ∈ t.properties.toList,
            p.plainEqual q = true := by
      intro p hp
      rcases (Properties.mem_toList_iff _ p).mp hp with
        ⟨e, he, rfl⟩
      rcases hFound e he with ⟨f, hf, _, hEqual⟩
      have hfMem : f.property ∈ t.properties.toList :=
        (Properties.mem_toList_iff _ _).mpr ⟨f, hf, rfl⟩
      exact ⟨f.property, hfMem,
        hProperties e.property hp f.property
          (hs.of_mem_toList hp) (ht.of_mem_toList hfMem)
          hEqual⟩
    have hLength :
        s.properties.toList.length =
          t.properties.toList.length := by
      rw [hs.wellFormed.length_toList,
        ht.wellFormed.length_toList]
      exact hCount
    have hPaired :
        Paired (fun p q => p.plainEqual q = true)
          s.properties.toList t.properties.toList :=
      .of_length_eq hLength hForth (hs.distinct.injective _)
    apply (s.plainEqual_iff t).mpr
    exact ⟨hAgree, hForth, fun q hq => hPaired.exists_left hq⟩
  pattern := by
    intro p hLeaves hParts q hp hq hpq
    rw [Pattern.equal_iff_related] at hpq
    apply (Pattern.plainEqual_iff_related p q).mpr
    apply hpq.mono
    · intro s hs t ht hst
      exact hLeaves s hs t (hp.of_mem_leaves hs)
        (hq.of_mem_leaves ht) hst
    · intro x hx y hy hxy
      exact hParts x hx y (hp.of_mem_parts hx)
        (hq.of_mem_parts hy) hxy

theorem Property.beq_eq_plainEqual
    {p q : Property}
    (hp : p.Built)
    (hq : q.Built) :
    (p == q) = p.plainEqual q := by
  apply Bool.eq_iff_iff.mpr
  constructor
  · exact hereditary_plainEqual_of_equal.ofProperty p q hp hq
  · intro h
    exact (equal_of_plainEqual hp hq h).1

/- Built statements are equal when they are plainly so. -/
theorem Statement.beq_eq_plainEqual
    {s t : Statement}
    (hs : s.Built)
    (ht : t.Built) :
    (s == t) = s.plainEqual t := by
  apply Bool.eq_iff_iff.mpr
  constructor
  · exact hereditary_plainEqual_of_equal.ofStatement s t hs ht
  · intro h
    exact (equal_of_plainEqual hs ht h).1

theorem Pattern.beq_eq_plainEqual
    {p q : Pattern}
    (hp : p.Built)
    (hq : q.Built) :
    (p == q) = p.plainEqual q := by
  apply Bool.eq_iff_iff.mpr
  constructor
  · exact hereditary_plainEqual_of_equal.ofPattern p q hp hq
  · intro h
    exact (equal_of_plainEqual hp hq h).1

end GraphSchema

------------------------------------------------------------
-- Laws of Equality
------------------------------------------------------------

namespace GraphSchema

variable [Fingerprint]

/-
  Equality is an equivalence relation on what was built if
  it is the same there as an equivalence relation on all
  values.
-/
omit [Fingerprint] in
private theorem beq_equivalence_of_plain
    {A : Type} [BEq A]
    {P : A → Prop}
    {plain : A → A → Bool}
    (hPlain : ∀ a b, P a → P b → (a == b) = plain a b)
    (hRefl : ∀ a, plain a a = true)
    (hSymm : ∀ a b, plain a b = true → plain b a = true)
    (hTrans :
      ∀ a b c,
        plain a b = true → plain b c = true →
          plain a c = true) :
    Equivalence (fun a b : { a : A // P a } =>
      (a.val == b.val) = true) where
  refl := by
    intro a
    rw [hPlain _ _ a.property a.property]
    exact hRefl a.val
  symm := by
    intro a b h
    rw [hPlain _ _ a.property b.property] at h
    rw [hPlain _ _ b.property a.property]
    exact hSymm _ _ h
  trans := by
    intro a b c hFirst hSecond
    rw [hPlain _ _ a.property b.property] at hFirst
    rw [hPlain _ _ b.property c.property] at hSecond
    rw [hPlain _ _ a.property c.property]
    exact hTrans _ _ _ hFirst hSecond

theorem Property.beq_equivalence :
    Equivalence (fun p q : { p : Property // p.Built } =>
      (p.val == q.val) = true) :=
  beq_equivalence_of_plain
    (fun _ _ => beq_eq_plainEqual)
    plainEqual_refl
    (fun _ _ => plainEqual_symm)
    (fun _ _ _ => plainEqual_trans)

/- Equality of built statements is an equivalence relation. -/
theorem Statement.beq_equivalence :
    Equivalence (fun s t : { s : Statement // s.Built } =>
      (s.val == t.val) = true) :=
  beq_equivalence_of_plain
    (fun _ _ => beq_eq_plainEqual)
    plainEqual_refl
    (fun _ _ => plainEqual_symm)
    (fun _ _ _ => plainEqual_trans)

theorem Pattern.beq_equivalence :
    Equivalence (fun p q : { p : Pattern // p.Built } =>
      (p.val == q.val) = true) :=
  beq_equivalence_of_plain
    (fun _ _ => beq_eq_plainEqual)
    plainEqual_refl
    (fun _ _ => plainEqual_symm)
    (fun _ _ _ => plainEqual_trans)

theorem Property.beq_comm
    {p q : Property}
    (hp : p.Built)
    (hq : q.Built) :
    (p == q) = true ↔ (q == p) = true :=
  ⟨beq_equivalence.symm (x := ⟨p, hp⟩) (y := ⟨q, hq⟩),
    beq_equivalence.symm (x := ⟨q, hq⟩) (y := ⟨p, hp⟩)⟩

/-
  On which side of a comparison the looked up property
  stands makes no difference to built statements.
-/
theorem Statement.beq_eq_indexedEqual
    {s t : Statement}
    (hs : s.Built)
    (ht : t.Built) :
    (s == t) = s.indexedEqual t := by
  have hFound :
      ∀ e ∈ s.properties.newestFirst,
        ((∃ f ∈ t.properties.newestFirst,
            f.fingerprint = e.fingerprint ∧
              e.property.equal f.property = true) ↔
          ∃ f ∈ t.properties.newestFirst,
            f.fingerprint = e.fingerprint ∧
              (f.property == e.property) = true) := by
    intro e he
    have hp : e.property.Built := hs.wellFormed.built e he
    constructor
    · rintro ⟨f, hf, hPrint, hEqual⟩
      have hq : f.property.Built := ht.wellFormed.built f hf
      exact ⟨f, hf, hPrint,
        (Property.beq_comm hp hq).mp hEqual⟩
    · rintro ⟨f, hf, hPrint, hEqual⟩
      have hq : f.property.Built := ht.wellFormed.built f hf
      exact ⟨f, hf, hPrint,
        (Property.beq_comm hq hp).mp hEqual⟩
  rw [Bool.eq_iff_iff]
  refine (s.equal_iff t).trans ?_
  rw [forall₂_congr hFound]
  simp [indexedEqual, and_assoc]

theorem Property.feed_eq_of_beq
    {p q : Property}
    (hp : p.Built)
    (hq : q.Built)
    (h : (p == q) = true) :
    p.feed = q.feed := by
  rw [beq_eq_plainEqual hp hq] at h
  exact (equal_of_plainEqual hp hq h).2

/- Equal built statements have one feed. -/
theorem Statement.feed_eq_of_beq
    {s t : Statement}
    (hs : s.Built)
    (ht : t.Built)
    (h : (s == t) = true) :
    s.feed = t.feed := by
  rw [beq_eq_plainEqual hs ht] at h
  exact (equal_of_plainEqual hs ht h).2

theorem Pattern.feed_eq_of_beq
    {p q : Pattern}
    (hp : p.Built)
    (hq : q.Built)
    (h : (p == q) = true) :
    p.feed = q.feed := by
  rw [beq_eq_plainEqual hp hq] at h
  exact (equal_of_plainEqual hp hq h).2

end GraphSchema
