import GraphSchema.Proofs.Related

/-
  Plain equality is an equivalence relation, whatever
  fingerprints and counts the statements carry.  The
  properties of plainly equal statements are paired one to
  one if neither statement repeats a property.

  Key definitions include:
    * `Property.Distinct`

  Key theorems include:
    * `Statement.plainEqual_refl`
    * `Statement.plainEqual_symm`
    * `Statement.plainEqual_trans`
    * `Statement.paired_of_plainEqual`
-/

------------------------------------------------------------
-- Equivalence
------------------------------------------------------------

namespace GraphSchema

private theorem hereditary_plainEqual_refl :
    Hereditary
      (fun p => p.plainEqual p = true)
      (fun s => s.plainEqual s = true)
      (fun x => x.plainEqual x = true) where
  property := by
    intro p hTypes hPatterns
    exact (Property.plainEqual_iff_related p p).mpr
      (.refl hTypes hPatterns)
  statement := by
    intro s hProperties
    apply (Statement.plainEqual_iff s s).mpr
    refine ⟨Variable.Agree.refl s.var, ?_, ?_⟩
    · intro p hp
      exact ⟨p, hp, hProperties p hp⟩
    · intro p hp
      exact ⟨p, hp, hProperties p hp⟩
  pattern := by
    intro p hLeaves hParts
    exact (Pattern.plainEqual_iff_related p p).mpr
      (.refl hLeaves hParts)

theorem Property.plainEqual_refl (p : Property) :
    p.plainEqual p = true :=
  hereditary_plainEqual_refl.ofProperty p

/- Every statement is plainly equal to itself. -/
theorem Statement.plainEqual_refl (s : Statement) :
    s.plainEqual s = true :=
  hereditary_plainEqual_refl.ofStatement s

theorem Pattern.plainEqual_refl (p : Pattern) :
    p.plainEqual p = true :=
  hereditary_plainEqual_refl.ofPattern p

private theorem hereditary_plainEqual_symm :
    Hereditary
      (fun p => ∀ q,
        p.plainEqual q = true → q.plainEqual p = true)
      (fun s => ∀ t,
        s.plainEqual t = true → t.plainEqual s = true)
      (fun x => ∀ y,
        x.plainEqual y = true → y.plainEqual x = true) where
  property := by
    intro p hTypes hPatterns q hpq
    rw [Property.plainEqual_iff_related] at hpq ⊢
    exact hpq.symm
      (fun s hs t _ => hTypes s hs t)
      (fun x hx y _ => hPatterns x hx y)
  statement := by
    intro s hProperties t hst
    rw [Statement.plainEqual_iff] at hst ⊢
    rcases hst with ⟨hAgree, hForth, hBack⟩
    refine ⟨hAgree.symm, ?_, ?_⟩
    · intro q hq
      rcases hBack q hq with ⟨p, hp, hpq⟩
      exact ⟨p, hp, hProperties p hp q hpq⟩
    · intro p hp
      rcases hForth p hp with ⟨q, hq, hpq⟩
      exact ⟨q, hq, hProperties p hp q hpq⟩
  pattern := by
    intro p hLeaves hParts q hpq
    rw [Pattern.plainEqual_iff_related] at hpq ⊢
    exact hpq.symm
      (fun s hs t _ => hLeaves s hs t)
      (fun x hx y _ => hParts x hx y)

theorem Property.plainEqual_symm
    {p q : Property}
    (h : p.plainEqual q = true) :
    q.plainEqual p = true :=
  hereditary_plainEqual_symm.ofProperty p q h

/- Plain equality of statements is symmetric. -/
theorem Statement.plainEqual_symm
    {s t : Statement}
    (h : s.plainEqual t = true) :
    t.plainEqual s = true :=
  hereditary_plainEqual_symm.ofStatement s t h

theorem Pattern.plainEqual_symm
    {p q : Pattern}
    (h : p.plainEqual q = true) :
    q.plainEqual p = true :=
  hereditary_plainEqual_symm.ofPattern p q h

private theorem hereditary_plainEqual_trans :
    Hereditary
      (fun p => ∀ q r,
        p.plainEqual q = true → q.plainEqual r = true →
          p.plainEqual r = true)
      (fun s => ∀ t u,
        s.plainEqual t = true → t.plainEqual u = true →
          s.plainEqual u = true)
      (fun x => ∀ y z,
        x.plainEqual y = true → y.plainEqual z = true →
          x.plainEqual z = true) where
  property := by
    intro p hTypes hPatterns q r hpq hqr
    rw [Property.plainEqual_iff_related] at hpq hqr ⊢
    exact hpq.trans hqr
      (fun s hs t _ u _ => hTypes s hs t u)
      (fun x hx y _ z _ => hPatterns x hx y z)
  statement := by
    intro s hProperties t u hst htu
    rw [Statement.plainEqual_iff] at hst htu ⊢
    rcases hst with ⟨hAgree, hForth, hBack⟩
    rcases htu with ⟨hAgree', hForth', hBack'⟩
    refine ⟨hAgree.trans hAgree', ?_, ?_⟩
    · intro p hp
      rcases hForth p hp with ⟨q, hq, hpq⟩
      rcases hForth' q hq with ⟨r, hr, hqr⟩
      exact ⟨r, hr, hProperties p hp q r hpq hqr⟩
    · intro r hr
      rcases hBack' r hr with ⟨q, hq, hqr⟩
      rcases hBack q hq with ⟨p, hp, hpq⟩
      exact ⟨p, hp, hProperties p hp q r hpq hqr⟩
  pattern := by
    intro p hLeaves hParts q r hpq hqr
    rw [Pattern.plainEqual_iff_related] at hpq hqr ⊢
    exact hpq.trans hqr
      (fun s hs t _ u _ => hLeaves s hs t u)
      (fun x hx y _ z _ => hParts x hx y z)

theorem Property.plainEqual_trans
    {p q r : Property}
    (hFirst : p.plainEqual q = true)
    (hSecond : q.plainEqual r = true) :
    p.plainEqual r = true :=
  hereditary_plainEqual_trans.ofProperty p q r hFirst hSecond

/- Plain equality of statements is transitive. -/
theorem Statement.plainEqual_trans
    {s t u : Statement}
    (hFirst : s.plainEqual t = true)
    (hSecond : t.plainEqual u = true) :
    s.plainEqual u = true :=
  hereditary_plainEqual_trans.ofStatement s t u hFirst
    hSecond

theorem Pattern.plainEqual_trans
    {p q r : Pattern}
    (hFirst : p.plainEqual q = true)
    (hSecond : q.plainEqual r = true) :
    p.plainEqual r = true :=
  hereditary_plainEqual_trans.ofPattern p q r hFirst hSecond

end GraphSchema

------------------------------------------------------------
-- Distinct Properties
------------------------------------------------------------

namespace GraphSchema

namespace Property

/- No two of the properties are plainly equal. -/
def Distinct (ps : List Property) : Prop :=
  ps.Pairwise (fun p q => p.plainEqual q = false)

/-
  Of distinct properties, no two are plainly equal to the
  same one.
-/
theorem Distinct.injective
    {ps : List Property}
    (h : Distinct ps)
    (qs : List Property) :
    ps.Pairwise (fun a b =>
      ∀ q ∈ qs,
        a.plainEqual q = true → ¬ b.plainEqual q = true) := by
  apply h.imp
  intro a b hab q _ haq hbq
  have hEqual : a.plainEqual b = true :=
    plainEqual_trans haq (plainEqual_symm hbq)
  rw [hab] at hEqual
  cases hEqual

/-
  Of distinct properties, no two have the same one plainly
  equal to them.
-/
theorem Distinct.functional
    {ps : List Property}
    (h : Distinct ps)
    (qs : List Property) :
    ps.Pairwise (fun a b =>
      ∀ q ∈ qs,
        q.plainEqual a = true → ¬ q.plainEqual b = true) := by
  apply (h.injective qs).imp
  intro a b hab q hq hqa hqb
  exact hab q hq (plainEqual_symm hqa) (plainEqual_symm hqb)

end Property

/-
  The properties of plainly equal statements are paired, if
  neither statement repeats one.
-/
theorem Statement.paired_of_plainEqual
    {s t : Statement}
    (hs : Property.Distinct s.properties.toList)
    (ht : Property.Distinct t.properties.toList)
    (hPlain : s.plainEqual t = true) :
    Paired (fun p q => p.plainEqual q = true)
      s.properties.toList t.properties.toList := by
  rcases (plainEqual_iff s t).mp hPlain with
    ⟨_, hForth, hBack⟩
  exact .of_both hForth hBack (hs.injective _)
    (ht.functional _)

end GraphSchema
