import GraphSchema.Proofs.Identity

/-
  This file shows what a history of appends leaves on a
  variable: which properties a statement contains and in
  which order it lists them.

  Key definitions include:
    * `Statement.ofHistory`
    * `Statement.HasHistory`
    * `Property.novel`

  Key theorems include:
    * `Statement.contains_appendAll`
    * `Statement.toList_appendAll`
    * `Statement.label_ofHistory_eq_some_iff`
    * `Statement.properties_of_history`
-/

------------------------------------------------------------
-- Histories
------------------------------------------------------------

namespace GraphSchema

/-
  The properties of a sequence that are new: they are equal
  neither to an earlier property that is given nor to one
  that precedes them in the sequence.
-/
def Property.novel
    (earlier : List Property) :
    List Property → List Property
| [] => []
| q :: rest =>
    if earlier.any (fun p => p == q) then
      novel (earlier ++ [q]) rest
    else
      q :: novel (earlier ++ [q]) rest

variable [Fingerprint]

/-
  The statement that a history of appends leaves on a
  variable.
-/
def Statement.ofHistory
    (v : Variable)
    (history : List Property) : Statement :=
  ((new v).appendAll history).value

/-
  A statement is what a history of built properties leaves
  on its variable.
-/
def Statement.HasHistory
    (s : Statement)
    (history : List Property) : Prop :=
  (∀ p ∈ history, p.Built) ∧ s = ofHistory s.var history

theorem Statement.built_ofHistory
    (v : Variable)
    {history : List Property}
    (hHistory : ∀ p ∈ history, p.Built) :
    (ofHistory v history).Built :=
  built_appendAll (.new v) hHistory

theorem Statement.var_ofHistory
    (v : Variable)
    (history : List Property) :
    (ofHistory v history).var = v :=
  var_appendAll (new v) history

/-
  The property of owning an age, on an anonymous variable
  with a generated name.
-/
def Property.ownsAge
    (name : String)
    (defaultValue : Option Value) : Property :=
  .has (.ofHistory (.anonymous name) [.type "age"]) false
    defaultValue

theorem Property.built_ownsAge
    (name : String)
    (defaultValue : Option Value) :
    (ownsAge name defaultValue).Built := by
  apply Property.Built.has
  apply Statement.built_ofHistory
  intro p hp
  rw [List.mem_singleton.mp hp]
  exact .type "age"

theorem Statement.Built.exists_history
    {s : Statement}
    (h : s.Built) :
    ∃ history, s.HasHistory history := by
  match s, h with
  | _, .new v =>
      refine ⟨[], ?_, rfl⟩
      intro p hp
      cases hp
  | _, .append (s := t) (p := p) ht hp =>
      rcases ht.exists_history with
        ⟨history, hHistory, hEq⟩
      refine ⟨history ++ [p], ?_, ?_⟩
      · intro q hq
        rcases List.mem_append.mp hq with hq | hq
        · exact hHistory q hq
        · rw [List.mem_singleton.mp hq]
          exact hp
      · rw [ofHistory, value_appendAll_append, var_append]
        rw [ofHistory] at hEq
        rw [← hEq]
        rfl

end GraphSchema

------------------------------------------------------------
-- Membership
------------------------------------------------------------

namespace GraphSchema

variable [Fingerprint]

/-
  A built property is contained in well-formed properties
  when one of them is plainly equal to it.
-/
theorem Properties.WellFormed.contains_iff
    {ps : Properties}
    {p : Property}
    (h : ps.WellFormed)
    (hp : p.Built) :
    ps.contains p = true ↔
      ∃ q ∈ ps.toList, q.plainEqual p = true := by
  rw [Properties.contains_iff]
  constructor
  · rintro ⟨e, he, _, hEqual⟩
    refine ⟨e.property,
      (ps.mem_toList_iff _).mpr ⟨e, he, rfl⟩, ?_⟩
    rw [← Property.beq_eq_plainEqual (h.built e he) hp]
    exact hEqual
  · rintro ⟨q, hq, hPlain⟩
    rcases (ps.mem_toList_iff q).mp hq with ⟨e, he, rfl⟩
    rcases Property.equal_of_plainEqual (h.built e he) hp
        hPlain with
      ⟨hEqual, hFeed⟩
    refine ⟨e, he, ?_, hEqual⟩
    rw [h.fingerprint_eq e he]
    exact congrArg Fingerprint.ofFeed hFeed

namespace Statement

/-
  Appending adds to what a statement contains everything
  that is equal to the new property.
-/
theorem contains_append
    {s : Statement}
    {p q : Property}
    (hs : s.Built)
    (hp : p.Built)
    (hq : q.Built) :
    (s.append p).value.properties.contains q = true ↔
      s.properties.contains q = true ∨ (p == q) = true := by
  rw [(hs.append hp).wellFormed.contains_iff hq,
    hs.wellFormed.contains_iff hq,
    Property.beq_eq_plainEqual hp hq,
    properties_append, Properties.toList_append]
  by_cases hContained : s.properties.contains p = true
  · rw [if_pos hContained]
    constructor
    · exact Or.inl
    · rintro (hFound | hpq)
      · exact hFound
      · rcases (hs.wellFormed.contains_iff hp).mp
            hContained with
          ⟨r, hr, hrp⟩
        exact ⟨r, hr, Property.plainEqual_trans hrp hpq⟩
  · rw [if_neg hContained]
    simp only [List.mem_append, List.mem_singleton]
    constructor
    · rintro ⟨r, hr | rfl, hrq⟩
      · exact .inl ⟨r, hr, hrq⟩
      · exact .inr hrq
    · rintro (⟨r, hr, hrq⟩ | hpq)
      · exact ⟨r, .inl hr, hrq⟩
      · exact ⟨p, .inr rfl, hpq⟩

/-
  After a run of appends, a statement contains what it
  contained before and what equals an appended property.
-/
theorem contains_appendAll
    {s : Statement}
    {ps : List Property}
    {q : Property}
    (hs : s.Built)
    (hps : ∀ p ∈ ps, p.Built)
    (hq : q.Built) :
    (s.appendAll ps).value.properties.contains q = true ↔
      s.properties.contains q = true ∨
        ∃ p ∈ ps, (p == q) = true := by
  induction ps generalizing s with
  | nil =>
      simp [value_appendAll_nil]
  | cons p ps ih =>
      rcases List.forall_mem_cons.mp hps with ⟨hp, hRest⟩
      rw [value_appendAll_cons, ih (hs.append hp) hRest,
        contains_append hs hp hq, or_assoc]
      simp

end Statement

end GraphSchema

------------------------------------------------------------
-- Order
------------------------------------------------------------

namespace GraphSchema

variable [Fingerprint]

namespace Statement

/-
  A run of appends lists the old properties and then the new
  ones.  The earlier properties that decide what is new may
  be any that stand for what the statement contains.
-/
theorem toList_appendAll
    {s : Statement}
    {ps earlier : List Property}
    (hs : s.Built)
    (hps : ∀ p ∈ ps, p.Built)
    (hEarlier :
      ∀ q : Property,
        q.Built →
          (s.properties.contains q = true ↔
            ∃ p ∈ earlier, (p == q) = true)) :
    (s.appendAll ps).value.properties.toList =
      s.properties.toList ++ Property.novel earlier ps := by
  induction ps generalizing s earlier with
  | nil =>
      rw [value_appendAll_nil, Property.novel,
        List.append_nil]
  | cons p ps ih =>
      rcases List.forall_mem_cons.mp hps with ⟨hp, hRest⟩
      have hEarlier' :
          ∀ q : Property,
            q.Built →
              ((s.append p).value.properties.contains q =
                  true ↔
                ∃ r ∈ earlier ++ [p], (r == q) = true) := by
        intro q hq
        rw [contains_append hs hp hq, hEarlier q hq]
        simp [or_and_right, exists_or]
      rw [value_appendAll_cons,
        ih (hs.append hp) hRest hEarlier',
        properties_append, Properties.toList_append,
        Property.novel]
      by_cases hContained : s.properties.contains p = true
      · have hAny :
            earlier.any (fun q => q == p) = true :=
          List.any_eq_true.mpr ((hEarlier p hp).mp hContained)
        rw [if_pos hContained, if_pos hAny]
      · have hAny :
            ¬ earlier.any (fun q => q == p) = true := by
          intro hFound
          exact hContained ((hEarlier p hp).mpr
            (List.any_eq_true.mp hFound))
        rw [if_neg hContained, if_neg hAny,
          List.append_assoc]
        rfl

/-
  What a built statement contains is what is equal to one of
  its properties.
-/
theorem Built.contains_iff_beq
    {s : Statement}
    {q : Property}
    (hs : s.Built)
    (hq : q.Built) :
    s.properties.contains q = true ↔
      ∃ p ∈ s.properties.toList, (p == q) = true := by
  rw [hs.wellFormed.contains_iff hq]
  constructor
  · rintro ⟨p, hp, hPlain⟩
    refine ⟨p, hp, ?_⟩
    rw [Property.beq_eq_plainEqual (hs.of_mem_toList hp) hq]
    exact hPlain
  · rintro ⟨p, hp, hEqual⟩
    refine ⟨p, hp, ?_⟩
    rw [← Property.beq_eq_plainEqual (hs.of_mem_toList hp) hq]
    exact hEqual

end Statement

end GraphSchema

------------------------------------------------------------
-- Contents of a History
------------------------------------------------------------

namespace GraphSchema

variable [Fingerprint]

namespace Statement

/- No two properties of a built statement are equal. -/
theorem Built.pairwise_beq_false
    {s : Statement}
    (hs : s.Built) :
    s.properties.toList.Pairwise (fun p q =>
      (p == q) = false ∧ (q == p) = false) := by
  apply List.Pairwise.imp_of_mem _ hs.distinct
  intro p q hp hq hDistinct
  have hpBuilt : p.Built := hs.of_mem_toList hp
  have hqBuilt : q.Built := hs.of_mem_toList hq
  constructor
  · rw [Property.beq_eq_plainEqual hpBuilt hqBuilt]
    exact hDistinct
  · rw [Property.beq_eq_plainEqual hqBuilt hpBuilt]
    apply Bool.eq_false_iff.mpr
    intro hPlain
    rw [Property.plainEqual_symm hPlain] at hDistinct
    cases hDistinct

/-
  A statement contains what is equal to a property of its
  history.
-/
theorem contains_ofHistory
    (v : Variable)
    {history : List Property}
    {p : Property}
    (hHistory : ∀ q ∈ history, q.Built)
    (hp : p.Built) :
    (ofHistory v history).properties.contains p = true ↔
      ∃ q ∈ history, (q == p) = true := by
  rw [ofHistory, contains_appendAll (.new v) hHistory hp]
  simp [new, Properties.contains, Properties.containsWith,
    Properties.empty]

theorem isEmpty_ofHistory
    (v : Variable)
    {history : List Property}
    (hHistory : ∀ q ∈ history, q.Built) :
    (ofHistory v history).properties.IsEmpty ↔
      history = [] := by
  constructor
  · intro hEmpty
    cases history with
    | nil =>
        rfl
    | cons p rest =>
        have hp : p.Built :=
          hHistory p (List.mem_cons_self ..)
        have hBuilt := built_ofHistory v hHistory
        -- The first property equals itself, so it is there.
        have hContained :=
          (contains_ofHistory v hHistory hp).mpr
            ⟨p, List.mem_cons_self ..,
              Property.beq_equivalence.refl ⟨p, hp⟩⟩
        rcases (hBuilt.contains_iff_beq hp).mp hContained with
          ⟨q, hq, _⟩
        have hLength := hBuilt.wellFormed.length_toList
        rw [Properties.IsEmpty] at hEmpty
        rw [hEmpty] at hLength
        rw [List.eq_nil_of_length_eq_zero hLength] at hq
        cases hq
  · rintro rfl
    rfl

/-
  The label that a history leaves is that of its first
  property that gives one.
-/
theorem label_ofHistory_eq_some_iff
    (v : Variable)
    {history : List Property}
    {label : String} :
    (ofHistory v history).label = some label ↔
      ∃ before after,
        history = before ++ .type label :: after ∧
          ∀ p ∈ before, ∀ other, p ≠ .type other := by
  have hLabel :
      (ofHistory v history).label =
        history.findSome? labelOf? :=
    label_appendAll (new v) history
  rw [hLabel, List.findSome?_eq_some_iff]
  constructor
  · rintro ⟨before, p, after, hSplit, hp, hBefore⟩
    rw [labelOf?_eq_some_iff.mp hp] at hSplit
    exact ⟨before, after, hSplit,
      fun q hq => labelOf?_eq_none_iff.mp (hBefore q hq)⟩
  · rintro ⟨before, after, hSplit, hBefore⟩
    exact ⟨before, .type label, after, hSplit, rfl,
      fun q hq => labelOf?_eq_none_iff.mpr (hBefore q hq)⟩

theorem label_ofHistory_eq_none_iff
    (v : Variable)
    {history : List Property} :
    (ofHistory v history).label = none ↔
      ∀ p ∈ history, ∀ label, p ≠ .type label := by
  have hLabel :
      (ofHistory v history).label =
        history.findSome? labelOf? :=
    label_appendAll (new v) history
  simp only [hLabel, List.findSome?_eq_none_iff,
    labelOf?_eq_none_iff]

end Statement

end GraphSchema

------------------------------------------------------------
-- Properties of a History
------------------------------------------------------------

namespace GraphSchema

namespace Statement

/-
  What appending makes of a built statement.  A run of
  appends leaves the old properties as they are and puts
  behind them the new ones, each of them once and where it
  was first appended.  So no two properties are equal, and
  the number of properties, whether there are any and what
  is contained are all read off the history.  The label is
  that of the first property that gives one in the history,
  and no later append changes it.
-/
theorem properties_of_history
    [Fingerprint]
    {s : Statement}
    (hs : s.Built) :
    (∀ ps : List Property,
      (∀ p ∈ ps, p.Built) →
        (s.appendAll ps).value.properties.toList =
          s.properties.toList ++
            Property.novel s.properties.toList ps) ∧
    s.properties.toList.Pairwise (fun p q =>
      (p == q) = false ∧ (q == p) = false) ∧
    s.properties.count = s.properties.toList.length ∧
    (∃ history, s.HasHistory history) ∧
    (∀ history,
      s.HasHistory history →
        (s.properties.IsEmpty ↔ history = []) ∧
        (∀ p : Property,
          p.Built →
            (s.properties.contains p = true ↔
              ∃ q ∈ history, (q == p) = true)) ∧
        (∀ label : String,
          s.label = some label ↔
            ∃ before after,
              history = before ++ .type label :: after ∧
                ∀ p ∈ before, ∀ other, p ≠ .type other) ∧
        (s.label = none ↔
          ∀ p ∈ history, ∀ label, p ≠ .type label)) ∧
    (∀ (ps : List Property) (label : String),
      s.label = some label →
        (s.appendAll ps).value.label = some label) := by
  refine ⟨?_, hs.pairwise_beq_false,
    hs.wellFormed.length_toList.symm, hs.exists_history,
    ?_, ?_⟩
  · intro ps hps
    exact toList_appendAll hs hps
      (fun q hq => hs.contains_iff_beq hq)
  · rintro history ⟨hHistory, hEq⟩
    rw [hEq]
    refine ⟨isEmpty_ofHistory s.var hHistory, ?_, ?_, ?_⟩
    · intro p hp
      exact contains_ofHistory s.var hHistory hp
    · intro label
      exact label_ofHistory_eq_some_iff s.var
    · exact label_ofHistory_eq_none_iff s.var
  · intro ps label hLabel
    rw [label_appendAll, hLabel]
    rfl

/-
  Owning an age a second time, under another generated name
  and with a default, does not change how it was owned the
  first time, and a second label does not replace the first.
-/
theorem properties_of_history_repeated :
    (@appendAll .mixing
        (@ofHistory .mixing (.named "x")
          [@Property.ownsAge .mixing "1" none])
        [@Property.ownsAge .mixing "2" (some (.boolean true)),
          .abstract, .abstract]).value.properties.toList =
      [@Property.ownsAge .mixing "1" none, .abstract] ∧
    (@ofHistory .mixing (.named "x")
        [.abstract, .type "person", .type "child"]).label =
      some "person" := by
  let _ : Fingerprint := .mixing
  have hBuilt :
      (ofHistory (.named "x")
        [Property.ownsAge "1" none]).Built := by
    apply built_ofHistory
    simp [Property.built_ownsAge]
  have hList :
      (ofHistory (.named "x")
          [Property.ownsAge "1" none]).properties.toList =
        [Property.ownsAge "1" none] :=
    rfl
  have hNovel :
      Property.novel [Property.ownsAge "1" none]
          [Property.ownsAge "2" (some (.boolean true)),
            .abstract, .abstract] =
        [.abstract] :=
    rfl
  have hAppended := (properties_of_history hBuilt).1
    [Property.ownsAge "2" (some (.boolean true)),
      .abstract, .abstract]
    (by simp [Property.built_ownsAge,
      Property.Built.abstract])
  rw [hList, hNovel] at hAppended
  have hHistory :
      (ofHistory (.named "x")
          [.abstract, .type "person", .type "child"]).HasHistory
        [.abstract, .type "person", .type "child"] := by
    refine ⟨?_, by rw [var_ofHistory]⟩
    simp [Property.Built.abstract, Property.Built.type]
  rcases properties_of_history
      (built_ofHistory (.named "x") hHistory.1) with
    ⟨_, _, _, _, hContents, _⟩
  rcases hContents _ hHistory with ⟨_, _, hLabel, _⟩
  refine ⟨hAppended, (hLabel "person").mpr ?_⟩
  exact ⟨[.abstract], [.type "child"], rfl, by simp⟩

end Statement

end GraphSchema
