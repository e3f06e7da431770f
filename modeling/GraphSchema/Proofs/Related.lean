import GraphSchema.Proofs.Matching
import GraphSchema.Proofs.Parts
import GraphSchema.Statement.Identity
import GraphSchema.Statement.PlainEquality

/-
  This file defines when two values, such as properties or
  patterns, are of one kind with related parts.  Equality
  and plain equality are both of this form, so that what
  they share is proved once.

  Key definitions include:
    * `Related`
    * `Property.Related`
    * `Pattern.Related`

  Key theorems include:
    * `Property.equal_iff_related`
    * `Property.plainEqual_iff_related`
    * `Statement.equal_iff`
    * `Statement.plainEqual_iff`
-/

------------------------------------------------------------
-- Related Parts
------------------------------------------------------------

namespace GraphSchema

variable {A H : Type}

/-
  Two values have the same head, and their statements and
  patterns are related one by one.
-/
structure Related
    (headOf : A → H)
    (statementsOf : A → List Statement)
    (patternsOf : A → List Pattern)
    (R : Statement → Statement → Prop)
    (T : Pattern → Pattern → Prop)
    (a b : A) : Prop where
  head : headOf a = headOf b
  statements :
    List.Forall₂ R (statementsOf a) (statementsOf b)
  patterns : List.Forall₂ T (patternsOf a) (patternsOf b)

variable {headOf : A → H}
variable {statementsOf : A → List Statement}
variable {patternsOf : A → List Pattern}
variable {R R' R'' : Statement → Statement → Prop}
variable {T T' T'' : Pattern → Pattern → Prop}
variable {a b c : A}

theorem related_iff :
    Related headOf statementsOf patternsOf R T a b ↔
      headOf a = headOf b ∧
        List.Forall₂ R (statementsOf a) (statementsOf b) ∧
        List.Forall₂ T (patternsOf a) (patternsOf b) := by
  constructor
  · rintro ⟨hHead, hStatements, hPatterns⟩
    exact ⟨hHead, hStatements, hPatterns⟩
  · rintro ⟨hHead, hStatements, hPatterns⟩
    exact ⟨hHead, hStatements, hPatterns⟩

namespace Related

theorem refl
    (hStatements : ∀ s ∈ statementsOf a, R s s)
    (hPatterns : ∀ x ∈ patternsOf a, T x x) :
    Related headOf statementsOf patternsOf R T a a where
  head := rfl
  statements := List.forall₂_same.mpr hStatements
  patterns := List.forall₂_same.mpr hPatterns

/- What relates the parts in another way relates values so. -/
theorem mono
    (h : Related headOf statementsOf patternsOf R T a b)
    (hStatements :
      ∀ s ∈ statementsOf a, ∀ t ∈ statementsOf b,
        R s t → R' s t)
    (hPatterns :
      ∀ x ∈ patternsOf a, ∀ y ∈ patternsOf b,
        T x y → T' x y) :
    Related headOf statementsOf patternsOf R' T' a b where
  head := h.head
  statements := forall₂_imp_of_mem h.statements hStatements
  patterns := forall₂_imp_of_mem h.patterns hPatterns

/- Relations that agree on the parts relate the same values. -/
theorem congr
    (hStatements :
      ∀ s ∈ statementsOf a, ∀ t, R s t ↔ R' s t)
    (hPatterns :
      ∀ x ∈ patternsOf a, ∀ y, T x y ↔ T' x y) :
    Related headOf statementsOf patternsOf R T a b ↔
      Related headOf statementsOf patternsOf R' T' a b := by
  rw [related_iff, related_iff,
    forall₂_congr_of_mem hStatements,
    forall₂_congr_of_mem hPatterns]

theorem symm
    (h : Related headOf statementsOf patternsOf R T a b)
    (hStatements :
      ∀ s ∈ statementsOf a, ∀ t ∈ statementsOf b,
        R s t → R' t s)
    (hPatterns :
      ∀ x ∈ patternsOf a, ∀ y ∈ patternsOf b,
        T x y → T' y x) :
    Related headOf statementsOf patternsOf R' T' b a where
  head := h.head.symm
  statements :=
    (forall₂_imp_of_mem h.statements hStatements).flip
  patterns := (forall₂_imp_of_mem h.patterns hPatterns).flip

theorem trans
    (hFirst :
      Related headOf statementsOf patternsOf R T a b)
    (hSecond :
      Related headOf statementsOf patternsOf R' T' b c)
    (hStatements :
      ∀ s ∈ statementsOf a, ∀ t ∈ statementsOf b,
        ∀ u ∈ statementsOf c, R s t → R' t u → R'' s u)
    (hPatterns :
      ∀ x ∈ patternsOf a, ∀ y ∈ patternsOf b,
        ∀ z ∈ patternsOf c, T x y → T' y z → T'' x z) :
    Related headOf statementsOf patternsOf R'' T'' a c where
  head := hFirst.head.trans hSecond.head
  statements :=
    forall₂_comp_of_mem hFirst.statements
      hSecond.statements hStatements
  patterns :=
    forall₂_comp_of_mem hFirst.patterns hSecond.patterns
      hPatterns

/- Two values that one value is related to are related. -/
theorem span
    (hFirst :
      Related headOf statementsOf patternsOf R T a b)
    (hSecond :
      Related headOf statementsOf patternsOf R' T' a c)
    (hStatements :
      ∀ s ∈ statementsOf a, ∀ t ∈ statementsOf b,
        ∀ u ∈ statementsOf c, R s t → R' s u → R'' t u)
    (hPatterns :
      ∀ x ∈ patternsOf a, ∀ y ∈ patternsOf b,
        ∀ z ∈ patternsOf c, T x y → T' x z → T'' y z) :
    Related headOf statementsOf patternsOf R'' T'' b c := by
  have hBack :
      Related headOf statementsOf patternsOf
        (fun t s => R s t) (fun y x => T x y) b a :=
    hFirst.symm (fun _ _ _ _ h => h) (fun _ _ _ _ h => h)
  apply hBack.trans hSecond
  · intro t ht s hs u hu
    exact hStatements s hs t ht u hu
  · intro y hy x hx z hz
    exact hPatterns x hx y hy z hz

end Related

end GraphSchema

------------------------------------------------------------
-- Related Properties
------------------------------------------------------------

namespace GraphSchema

namespace Property

/- What a property says apart from its parts and default. -/
inductive Head where
| type (label : String)
| abstract
| sub (direct : Bool)
| has (isKey : Bool)
| plays (required : Bool)
| relates
| datatype (d : DataType)
| regex (expression : String)
| premise
| conclusion

def head : Property → Head
| .type label => .type label
| .abstract => .abstract
| .sub _ direct => .sub direct
| .has _ isKey _ => .has isKey
| .plays _ required => .plays required
| .relates _ _ => .relates
| .datatype d => .datatype d
| .regex expression => .regex expression
| .premise _ => .premise
| .conclusion _ => .conclusion

/-
  Two properties have the same head, and their statements
  and patterns are related one by one.
-/
abbrev Related
    (R : Statement → Statement → Prop)
    (T : Pattern → Pattern → Prop)
    (p q : Property) : Prop :=
  GraphSchema.Related head types patterns R T p q

/- Equality of properties relates their parts by equality. -/
theorem equal_iff_related
    (p q : Property) :
    p.equal q = true ↔
      Related
        (fun s t => s.equal t = true)
        (fun x y => x.equal y = true)
        p q := by
  constructor
  · fun_cases Property.equal p q
    case case12 =>
      intro h
      cases h
    all_goals
      intro h
      constructor <;> simp_all [head, types, patterns]
  · rintro ⟨hHead, hTypes, hPatterns⟩
    cases p <;> cases q <;> simp [head] at hHead
    case relates.relates s u t v =>
      cases u <;> cases v <;>
        simp_all [equal, types]
    all_goals simp_all [types, patterns, equal]

/- Plain equality of properties relates their parts by it. -/
theorem plainEqual_iff_related
    (p q : Property) :
    p.plainEqual q = true ↔
      Related
        (fun s t => s.plainEqual t = true)
        (fun x y => x.plainEqual y = true)
        p q := by
  constructor
  · fun_cases Property.plainEqual p q
    case case12 =>
      intro h
      cases h
    all_goals
      intro h
      constructor <;> simp_all [head, types, patterns]
  · rintro ⟨hHead, hTypes, hPatterns⟩
    cases p <;> cases q <;> simp [head] at hHead
    case relates.relates s u t v =>
      cases u <;> cases v <;>
        simp_all [plainEqual, types]
    all_goals simp_all [types, patterns, plainEqual]

end Property

end GraphSchema

------------------------------------------------------------
-- Related Patterns
------------------------------------------------------------

namespace GraphSchema

namespace Pattern

/- How a pattern combines its parts. -/
inductive Head where
| statement
| conjunction
| disjunction
| negation

def head : Pattern → Head
| .statement _ => .statement
| .conjunction _ => .conjunction
| .disjunction _ => .disjunction
| .negation _ => .negation

/-
  Two patterns have the same head, and their parts are
  related one by one.
-/
abbrev Related
    (R : Statement → Statement → Prop)
    (T : Pattern → Pattern → Prop)
    (p q : Pattern) : Prop :=
  GraphSchema.Related head leaves parts R T p q

theorem allEqual_iff
    (ps qs : List Pattern) :
    allEqual ps qs = true ↔
      List.Forall₂ (fun p q => p.equal q = true) ps qs := by
  induction ps generalizing qs with
  | nil =>
      cases qs <;> simp [allEqual]
  | cons p ps ih =>
      cases qs <;> simp [allEqual, ih]

/-
  Lists of patterns are plainly equal when they are one by
  one.
-/
theorem allPlainEqual_iff
    (ps qs : List Pattern) :
    allPlainEqual ps qs = true ↔
      List.Forall₂
        (fun p q => p.plainEqual q = true) ps qs := by
  induction ps generalizing qs with
  | nil =>
      cases qs <;> simp [allPlainEqual]
  | cons p ps ih =>
      cases qs <;> simp [allPlainEqual, ih]

/- Equality of patterns relates their parts by equality. -/
theorem equal_iff_related
    (p q : Pattern) :
    p.equal q = true ↔
      Related
        (fun s t => s.equal t = true)
        (fun x y => x.equal y = true)
        p q := by
  constructor
  · fun_cases Pattern.equal p q
    case case5 =>
      intro h
      cases h
    all_goals
      intro h
      constructor <;>
        simp_all [head, leaves, parts, allEqual_iff]
  · rintro ⟨hHead, hLeaves, hParts⟩
    cases p <;> cases q <;> simp [head] at hHead
    all_goals
      simp_all [leaves, parts, equal, allEqual_iff]

/- Plain equality of patterns relates their parts by it. -/
theorem plainEqual_iff_related
    (p q : Pattern) :
    p.plainEqual q = true ↔
      Related
        (fun s t => s.plainEqual t = true)
        (fun x y => x.plainEqual y = true)
        p q := by
  constructor
  · fun_cases Pattern.plainEqual p q
    case case5 =>
      intro h
      cases h
    all_goals
      intro h
      constructor <;>
        simp_all [head, leaves, parts, allPlainEqual_iff]
  · rintro ⟨hHead, hLeaves, hParts⟩
    cases p <;> cases q <;> simp [head] at hHead
    all_goals
      simp_all [leaves, parts, plainEqual,
        allPlainEqual_iff]

end Pattern

end GraphSchema

------------------------------------------------------------
-- Equal Statements
------------------------------------------------------------

namespace GraphSchema

namespace Entry

/-
  All entries are found when each has an equal one with the
  same fingerprint.
-/
theorem allFound_iff
    (entries others : List Entry) :
    allFound entries others = true ↔
      ∀ e ∈ entries, ∃ f ∈ others,
        f.fingerprint = e.fingerprint ∧
          e.property.equal f.property = true := by
  induction entries with
  | nil =>
      simp [allFound]
  | cons e rest ih =>
      rcases e with ⟨p, fingerprint⟩
      simp [allFound, ih]

theorem allEqualSome_iff
    (entries others : List Entry) :
    allEqualSome entries others = true ↔
      ∀ e ∈ entries, ∃ f ∈ others,
        e.property.plainEqual f.property = true := by
  induction entries with
  | nil =>
      simp [allEqualSome]
  | cons e rest ih =>
      rcases e with ⟨p, fingerprint⟩
      simp [allEqualSome, ih]

theorem someEqual_iff
    (entries : List Entry)
    (q : Property) :
    someEqual entries q = true ↔
      ∃ e ∈ entries, e.property.plainEqual q = true := by
  induction entries with
  | nil =>
      simp [someEqual]
  | cons e rest ih =>
      rcases e with ⟨p, fingerprint⟩
      simp [someEqual, ih]

end Entry

namespace Statement

/-
  Statements are equal when their variables agree, they have
  equally many properties, and each entry of the first one
  is found in the second one.
-/
theorem equal_iff
    (s t : Statement) :
    s.equal t = true ↔
      s.var.Agree t.var ∧
        s.properties.count = t.properties.count ∧
        ∀ e ∈ s.properties.newestFirst,
          ∃ f ∈ t.properties.newestFirst,
            f.fingerprint = e.fingerprint ∧
              e.property.equal f.property = true := by
  rcases s with ⟨v, entries, count⟩
  simp [equal, Entry.allFound_iff, and_assoc]

/-
  Statements are plainly equal when their variables agree
  and the properties of each are found in the other one.
-/
theorem plainEqual_iff
    (s t : Statement) :
    s.plainEqual t = true ↔
      s.var.Agree t.var ∧
        (∀ p ∈ s.properties.toList,
          ∃ q ∈ t.properties.toList,
            p.plainEqual q = true) ∧
        (∀ q ∈ t.properties.toList,
          ∃ p ∈ s.properties.toList,
            p.plainEqual q = true) := by
  rcases s with ⟨v, entries, count⟩
  simp [plainEqual, Entry.allEqualSome_iff,
    Entry.someEqual_iff, Properties.mem_toList_iff,
    and_assoc]

end Statement

end GraphSchema
