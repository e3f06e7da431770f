import GraphSchema.Proofs.BuildOrder
import GraphSchema.Proofs.Traversal
import GraphSchema.Statement.Erasure

/-
  This file shows that names of anonymous variables and
  default values influence neither equality nor texts: what
  can be observed of a built statement is the same after
  they are erased, and so is what appending does.

  Key theorems include:
    * `Statement.plainEqual_erased`
    * `Statement.text_erased`
    * `Statement.innerStatements_erased`
    * `Statement.observations_of_erased_eq`
-/

------------------------------------------------------------
-- Parts of Erased Properties and Patterns
------------------------------------------------------------

namespace GraphSchema

namespace Property

@[simp] theorem types_erased (p : Property) :
    p.erased.types = p.types.map Statement.erased := by
  cases p with
  | relates s superRole => cases superRole <;> rfl
  | _ => rfl

@[simp] theorem patterns_erased (p : Property) :
    p.erased.patterns = p.patterns.map Pattern.erased := by
  cases p with
  | relates s superRole => cases superRole <;> rfl
  | _ => rfl

theorem head_erased (p : Property) :
    p.erased.head = p.head := by
  cases p with
  | relates s superRole => cases superRole <;> rfl
  | _ => rfl

theorem keyword_erased (p : Property) :
    p.erased.keyword = p.keyword := by
  cases p with
  | relates s superRole => cases superRole <;> rfl
  | _ => rfl

theorem labelOf?_erased (p : Property) :
    Statement.labelOf? p.erased = Statement.labelOf? p := by
  cases p with
  | relates s superRole => cases superRole <;> rfl
  | _ => rfl

end Property

namespace Pattern

@[simp] theorem leaves_erased (p : Pattern) :
    p.erased.leaves = p.leaves.map Statement.erased := by
  cases p <;> rfl

@[simp] theorem parts_erased (p : Pattern) :
    p.erased.parts = p.parts.map Pattern.erased := by
  cases p with
  | conjunction ps | disjunction ps =>
      exact listErased_eq_map ps
  | _ => rfl

theorem head_erased (p : Pattern) :
    p.erased.head = p.head := by
  cases p <;> rfl

end Pattern

end GraphSchema

------------------------------------------------------------
-- Equality
------------------------------------------------------------

namespace GraphSchema

/- Erasure keeps whether and where a name was given. -/
theorem Variable.agree_erased (v : Variable) :
    v.erased.Agree v := by
  intro hUser
  rw [isUserDefined_erased, or_self] at hUser
  exact erased_of_isUserDefined hUser

private theorem hereditary_plainEqual_erased :
    Hereditary
      (fun p => p.erased.plainEqual p = true)
      (fun s => s.erased.plainEqual s = true)
      (fun x => x.erased.plainEqual x = true) where
  property := by
    intro p hTypes hPatterns
    apply (Property.plainEqual_iff_related _ _).mpr
    refine ⟨p.head_erased, ?_, ?_⟩
    · rw [Property.types_erased, List.forall₂_map_left_iff]
      exact List.forall₂_same.mpr hTypes
    · rw [Property.patterns_erased, List.forall₂_map_left_iff]
      exact List.forall₂_same.mpr hPatterns
  statement := by
    intro s hProperties
    apply (Statement.plainEqual_iff _ _).mpr
    rw [Statement.var_erased, Statement.toList_erased]
    refine ⟨s.var.agree_erased, ?_, ?_⟩
    · intro p hp
      rcases List.mem_map.mp hp with ⟨q, hq, rfl⟩
      exact ⟨q, hq, hProperties q hq⟩
    · intro q hq
      exact ⟨q.erased, List.mem_map_of_mem hq,
        hProperties q hq⟩
  pattern := by
    intro p hLeaves hParts
    apply (Pattern.plainEqual_iff_related _ _).mpr
    refine ⟨p.head_erased, ?_, ?_⟩
    · rw [Pattern.leaves_erased, List.forall₂_map_left_iff]
      exact List.forall₂_same.mpr hLeaves
    · rw [Pattern.parts_erased, List.forall₂_map_left_iff]
      exact List.forall₂_same.mpr hParts

theorem Property.plainEqual_erased (p : Property) :
    p.erased.plainEqual p = true :=
  hereditary_plainEqual_erased.ofProperty p

/- An erased statement is plainly equal to the statement. -/
theorem Statement.plainEqual_erased (s : Statement) :
    s.erased.plainEqual s = true :=
  hereditary_plainEqual_erased.ofStatement s

theorem Pattern.plainEqual_erased (p : Pattern) :
    p.erased.plainEqual p = true :=
  hereditary_plainEqual_erased.ofPattern p

/- Properties that are the same after erasure are equal. -/
theorem Property.plainEqual_of_erased_eq
    {p q : Property}
    (h : p.erased = q.erased) :
    p.plainEqual q = true := by
  have hp : p.plainEqual p.erased = true :=
    plainEqual_symm p.plainEqual_erased
  rw [h] at hp
  exact plainEqual_trans hp q.plainEqual_erased

/- Statements that are the same after erasure are equal. -/
theorem Statement.plainEqual_of_erased_eq
    {s t : Statement}
    (h : s.erased = t.erased) :
    s.plainEqual t = true := by
  have hs : s.plainEqual s.erased = true :=
    plainEqual_symm s.plainEqual_erased
  rw [h] at hs
  exact plainEqual_trans hs t.plainEqual_erased

/- Patterns that are the same after erasure are equal. -/
theorem Pattern.plainEqual_of_erased_eq
    {p q : Pattern}
    (h : p.erased = q.erased) :
    p.plainEqual q = true := by
  have hp : p.plainEqual p.erased = true :=
    plainEqual_symm p.plainEqual_erased
  rw [h] at hp
  exact plainEqual_trans hp q.plainEqual_erased

end GraphSchema

------------------------------------------------------------
-- Texts
------------------------------------------------------------

namespace GraphSchema

namespace Statement

theorem label_erased (s : Statement) :
    s.erased.label = s.label := by
  rw [label, label, toList_erased, List.findSome?_map]
  congr 1
  funext p
  exact p.labelOf?_erased

theorem bodyOf_erased
    (s : Statement)
    (texts : List String) :
    s.erased.bodyOf texts = s.bodyOf texts := by
  simp only [bodyOf, var_erased, Variable.text_erased,
    Variable.isUserDefined_erased]

variable [Fingerprint]

/- Erasure keeps the number of properties. -/
theorem Built.count_erased
    {s : Statement}
    (hs : s.Built) :
    s.erased.properties.count = s.properties.count := by
  rw [Statement.count_erased]
  exact hs.wellFormed.length_toList

theorem Built.printableNameOf_erased
    {s : Statement}
    (hs : s.Built)
    (texts : Unit → List String) :
    s.erased.printableNameOf texts =
      s.printableNameOf texts := by
  simp only [printableNameOf, var_erased,
    Variable.text_erased, Variable.isUserDefined_erased,
    hs.count_erased, label_erased, bodyOf_erased]

end Statement

variable [Fingerprint]

private theorem hereditary_text_erased :
    Hereditary
      (fun p => p.Built →
        p.erased.argumentText = p.argumentText)
      (fun s => s.Built →
        s.erased.propertyTexts = s.propertyTexts)
      (fun x => x.Built → x.erased.text = x.text) where
  property := by
    intro p hTypes hPatterns hp
    have hName :
        ∀ s ∈ p.types,
          s.erased.printableName = s.printableName := by
      intro s hs
      have hBuilt : s.Built := hp.of_mem_types hs
      rw [Statement.printableName, Statement.printableName,
        hTypes s hs hBuilt, hBuilt.printableNameOf_erased]
    have hText :
        ∀ x ∈ p.patterns, x.erased.text = x.text := by
      intro x hx
      exact hPatterns x hx (hp.of_mem_patterns hx)
    cases p with
    | sub s | has s | plays s =>
        exact hName s (List.mem_singleton_self s)
    | relates s superRole =>
        cases superRole with
        | none =>
            exact hName s (List.mem_singleton_self s)
        | some t =>
            have hRole := hName s (by simp [Property.types])
            have hSuperRole :=
              hName t (by simp [Property.types])
            simp only [Statement.printableName] at hRole
            simp only [Statement.printableName] at hSuperRole
            simp only [Property.erased, Property.argumentText,
              hRole, hSuperRole]
    | premise x | conclusion x =>
        exact hText x (List.mem_singleton_self x)
    | _ => rfl
  statement := by
    intro s hProperties hs
    rw [Statement.propertyTexts_eq_map,
      Statement.propertyTexts_eq_map,
      Statement.toList_erased, List.map_map]
    apply List.map_congr_left
    intro p hp
    have hArgument := hProperties p hp (hs.of_mem_toList hp)
    simp only [Function.comp_apply, Property.text,
      p.keyword_erased, hArgument]
  pattern := by
    intro x hLeaves hParts hx
    have hConjunction :
        ∀ y : Pattern,
          y.erased.IsConjunction ↔ y.IsConjunction := by
      intro y
      cases y <;> rfl
    have hText : ∀ y ∈ x.parts, y.erased.text = y.text := by
      intro y hy
      exact hParts y hy (hx.of_mem_parts hy)
    cases x with
    | statement s =>
        have hMember :
            s ∈ (Pattern.statement s).leaves :=
          List.mem_singleton_self s
        have hTexts :=
          hLeaves s hMember (hx.of_mem_leaves hMember)
        simp only [Pattern.erased, Pattern.text, hTexts,
          Statement.bodyOf_erased]
    | conjunction ps =>
        simp only [Pattern.erased, Pattern.text,
          Pattern.listErased_eq_map,
          Pattern.itemTexts_eq_join, List.map_map]
        congr 3
        apply List.map_congr_left
        intro y hy
        simp only [Function.comp_apply, Pattern.itemOf,
          hConjunction, hText y hy]
    | disjunction ps =>
        simp only [Pattern.erased, Pattern.text,
          Pattern.listErased_eq_map,
          Pattern.blockTexts_eq_map, List.map_map]
        congr 2
        apply List.map_congr_left
        intro y hy
        simp only [Function.comp_apply, Pattern.blockOf,
          hConjunction, hText y hy]
    | negation y =>
        simp only [Pattern.erased, Pattern.text,
          Pattern.blockOf, hConjunction,
          hText y (List.mem_singleton_self y)]

theorem Property.text_erased
    {p : Property}
    (hp : p.Built) :
    p.erased.text = p.text := by
  rw [text, text, p.keyword_erased,
    hereditary_text_erased.ofProperty p hp]

/- Erasure keeps the text of a built statement. -/
theorem Statement.text_erased
    {s : Statement}
    (hs : s.Built) :
    s.erased.text = s.text := by
  rw [text, text, body, body,
    hereditary_text_erased.ofStatement s hs, bodyOf_erased]

theorem Pattern.text_erased
    {p : Pattern}
    (hp : p.Built) :
    p.erased.text = p.text :=
  hereditary_text_erased.ofPattern p hp

/- Erasure keeps the short form of a built statement. -/
theorem Statement.printableName_erased
    {s : Statement}
    (hs : s.Built) :
    s.erased.printableName = s.printableName := by
  rw [printableName, printableName,
    hereditary_text_erased.ofStatement s hs,
    hs.printableNameOf_erased]

end GraphSchema

------------------------------------------------------------
-- Inner Statements
------------------------------------------------------------

namespace GraphSchema

/- Erasure changes the statements of a pattern one by one. -/
theorem Pattern.statements_erased (p : Pattern) :
    p.erased.statements =
      p.statements.map Statement.erased := by
  induction p using Pattern.induction with
  | statement s =>
      rfl
  | conjunction ps ih | disjunction ps ih =>
      simp only [erased, statements, listErased_eq_map,
        listStatements_eq_flatMap, List.flatMap_map,
        List.map_flatMap]
      exact List.flatMap_congr ih
  | negation q ih =>
      exact ih

namespace Statement

/- Erasure changes the nested statements one by one. -/
theorem nested_erased (s : Statement) :
    s.erased.nested = s.nested.map erased := by
  simp only [nested, toList_erased, List.flatMap_map,
    List.map_flatMap, Property.statements_eq_append,
    Property.types_erased, Property.patterns_erased,
    Pattern.statements_erased, List.map_append]

/- Erasure changes the inner statements one by one. -/
theorem innerStatements_erased (s : Statement) :
    s.erased.innerStatements =
      s.innerStatements.map erased :=
  visit_map nested_erased [s]

/- Erasure keeps the texts of the inner statements. -/
theorem texts_innerStatements_erased
    [Fingerprint]
    {s : Statement}
    (hs : s.Built) :
    s.erased.innerStatements.map text =
      s.innerStatements.map text := by
  rw [innerStatements_erased, List.map_map]
  apply List.map_congr_left
  intro t ht
  exact text_erased (hs.of_mem_innerStatements ht)

end Statement

end GraphSchema

------------------------------------------------------------
-- Appending
------------------------------------------------------------

namespace GraphSchema

namespace Statement

variable [Fingerprint]

/-
  Statements that are the same after erasure contain the
  same properties up to erasure.
-/
theorem contains_eq_of_erased_eq
    {s t : Statement}
    {p q : Property}
    (hs : s.Built)
    (ht : t.Built)
    (hp : p.Built)
    (hq : q.Built)
    (hStatements : s.erased = t.erased)
    (hProperties : p.erased = q.erased) :
    s.properties.contains p = t.properties.contains q := by
  have hEqual : (s == t) = true := by
    rw [beq_eq_plainEqual hs ht]
    exact plainEqual_of_erased_eq hStatements
  have hpq : p.plainEqual q = true :=
    Property.plainEqual_of_erased_eq hProperties
  have hContains :
      t.properties.contains p = true ↔
        t.properties.contains q = true := by
    rw [ht.wellFormed.contains_iff hp,
      ht.wellFormed.contains_iff hq]
    constructor
    · rintro ⟨r, hr, hrp⟩
      exact ⟨r, hr, Property.plainEqual_trans hrp hpq⟩
    · rintro ⟨r, hr, hrq⟩
      exact ⟨r, hr, Property.plainEqual_trans hrq
        (Property.plainEqual_symm hpq)⟩
  apply Bool.eq_iff_iff.mpr
  exact (((beq_iff_contains hs ht).mp hEqual).2 p hp).trans
    hContains

/- A property is reported as skipped if it was there. -/
theorem skipped_iff_contains
    (s : Statement)
    (p : Property) :
    .skippingDuplicate p ∈ (s.append p).events ↔
      s.properties.contains p = true := by
  rw [events_append]
  by_cases hContained : s.properties.contains p = true
  · simp [hContained]
  · simp [hContained]

/- A property leaves a statement as it is if it was there. -/
theorem append_eq_self_iff_contains
    (s : Statement)
    (p : Property) :
    (s.append p).value = s ↔
      s.properties.contains p = true := by
  constructor
  · intro hSame
    by_contra hNew
    have hCount := s.properties.count_append p
    rw [if_neg hNew, ← properties_append, hSame] at hCount
    omega
  · intro hContained
    have hProperties :
        (s.properties.append p).value = s.properties := by
      rw [Properties.contains] at hContained
      rw [Properties.append, if_pos hContained]
    rw [append, Logged.value_bind, Logged.value_bind,
      hProperties]
    rcases s with ⟨v, properties⟩
    rfl

/-
  Statements stay the same after erasure when properties are
  appended that are the same after erasure.
-/
theorem erased_append_eq
    {s t : Statement}
    {p q : Property}
    (hContains :
      s.properties.contains p = t.properties.contains q)
    (hStatements : s.erased = t.erased)
    (hProperties : p.erased = q.erased) :
    (s.append p).value.erased =
      (t.append q).value.erased := by
  rcases (erased_eq_iff s t).mp hStatements with
    ⟨hVar, hList⟩
  apply (erased_eq_iff _ _).mpr
  refine ⟨hVar, ?_⟩
  rw [properties_append, properties_append,
    Properties.toList_append, Properties.toList_append,
    hContains]
  by_cases hContained : t.properties.contains q = true
  · rw [if_pos hContained, if_pos hContained]
    exact hList
  · rw [if_neg hContained, if_neg hContained,
      List.map_append, List.map_append, hList,
      List.map_singleton, List.map_singleton, hProperties]

end Statement

end GraphSchema

------------------------------------------------------------
-- What Erasure Hides
------------------------------------------------------------

namespace GraphSchema

namespace Statement

/-
  Built statements that are the same after the names of
  anonymous variables and the default values are erased are
  equal, have the same hashes, and show the same texts, and
  so do the statements inside of them.  They go on to do so:
  appending properties that are the same after erasure skips
  both or none, and extends the statements alike.
-/
theorem observations_of_erased_eq
    [Fingerprint]
    {s t : Statement}
    (hs : s.Built)
    (ht : t.Built)
    (h : s.erased = t.erased) :
    (s == t) = true ∧
    (∀ hash : List FeedItem → UInt64,
      hash s.feed = hash t.feed) ∧
    s.text = t.text ∧
    s.printableName = t.printableName ∧
    s.label = t.label ∧
    s.properties.count = t.properties.count ∧
    s.innerStatements.map text =
      t.innerStatements.map text ∧
    (∀ p q : Property,
      p.Built →
      q.Built →
      p.erased = q.erased →
        s.properties.contains p =
          t.properties.contains q ∧
        (.skippingDuplicate p ∈ (s.append p).events ↔
          .skippingDuplicate q ∈ (t.append q).events) ∧
        ((s.append p).value = s ↔
          (t.append q).value = t) ∧
        (s.append p).value.erased =
          (t.append q).value.erased) := by
  have hEqual : (s == t) = true := by
    rw [beq_eq_plainEqual hs ht]
    exact plainEqual_of_erased_eq h
  refine ⟨hEqual, ?_, ?_, ?_, ?_, ?_, ?_, ?_⟩
  · intro hash
    rw [feed_eq_of_beq hs ht hEqual]
  · rw [← text_erased hs, h, text_erased ht]
  · rw [← printableName_erased hs, h,
      printableName_erased ht]
  · rw [← s.label_erased, h, t.label_erased]
  · rw [← hs.count_erased, h, ht.count_erased]
  · rw [← texts_innerStatements_erased hs, h,
      texts_innerStatements_erased ht]
  · intro p q hp hq hErased
    have hContains :
        s.properties.contains p =
          t.properties.contains q :=
      contains_eq_of_erased_eq hs ht hp hq h hErased
    refine ⟨hContains, ?_, ?_, ?_⟩
    · rw [skipped_iff_contains, skipped_iff_contains,
        hContains]
    · rw [append_eq_self_iff_contains,
        append_eq_self_iff_contains, hContains]
    · exact erased_append_eq hContains h hErased

/-
  A rule whose premise is that something owns an age shows
  the same text, and skips the same properties, whatever
  names were generated and whatever default the age has.
-/
theorem observations_of_erased_eq_inPremise :
    (@ofHistory .mixing (.named "r")
        [.premise (.statement
          (@ofHistory .mixing (.anonymous "1")
            [@Property.ownsAge .mixing "2" none]))]).text =
      (@ofHistory .mixing (.named "r")
        [.premise (.statement
          (@ofHistory .mixing (.anonymous "3")
            [@Property.ownsAge .mixing "4"
              (some (.boolean true))]))]).text ∧
    (@Properties.contains .mixing
        (@ofHistory .mixing (.named "r")
          [.premise (.statement
            (@ofHistory .mixing (.anonymous "1")
              [@Property.ownsAge .mixing "2" none]))]
          ).properties
        (@Property.ownsAge .mixing "5" none)) =
      (@Properties.contains .mixing
        (@ofHistory .mixing (.named "r")
          [.premise (.statement
            (@ofHistory .mixing (.anonymous "3")
              [@Property.ownsAge .mixing "4"
                (some (.boolean true))]))]).properties
        (@Property.ownsAge .mixing "6"
          (some (.boolean false)))) := by
  let _ : Fingerprint := .mixing
  have hBuilt :
      ∀ (rule owner age : String) (v : Option Value),
        (ofHistory (.named rule)
          [.premise (.statement
            (ofHistory (.anonymous owner)
              [Property.ownsAge age v]))]).Built := by
    intro rule owner age v
    apply built_ofHistory
    intro p hp
    rw [List.mem_singleton.mp hp]
    apply Property.Built.premise
    apply Pattern.Built.statement
    apply built_ofHistory
    simp [Property.built_ownsAge]
  rcases observations_of_erased_eq
      (hBuilt "r" "1" "2" none)
      (hBuilt "r" "3" "4" (some (.boolean true)))
      (by rfl) with
    ⟨_, _, hText, _, _, _, _, hAppend⟩
  refine ⟨hText, (hAppend _ _ ?_ ?_ ?_).1⟩
  · exact Property.built_ownsAge "5" none
  · exact Property.built_ownsAge "6" (some (.boolean false))
  · rfl

end Statement

end GraphSchema
