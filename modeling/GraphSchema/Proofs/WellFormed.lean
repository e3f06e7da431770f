import GraphSchema.Proofs.Parts
import GraphSchema.Statement.Built

/-
  This file shows what appending keeps true of the
  properties of a statement: they are counted, they carry
  their own fingerprints, they have been built before, and
  the check for duplicates separates any two of them.

  Key definitions include:
    * `Properties.WellFormed`

  Key theorems include:
    * `Properties.WellFormed.append`
    * `Statement.Built.wellFormed`
-/

------------------------------------------------------------
-- Parts of What Was Built
------------------------------------------------------------

namespace GraphSchema

variable [Fingerprint]

/- The statements of a built property are built. -/
theorem Property.Built.of_mem_types
    {p : Property}
    {s : Statement}
    (hp : p.Built)
    (hs : s ∈ p.types) : s.Built := by
  cases hp with
  | sub _ h | has _ _ h | plays _ h | relates h =>
      rw [List.mem_singleton.mp hs]
      exact h
  | relatesAs hRole hSuperRole =>
      rcases List.mem_cons.mp hs with rfl | hs
      · exact hRole
      · rw [List.mem_singleton.mp hs]
        exact hSuperRole
  | _ => cases hs

theorem Property.Built.of_mem_patterns
    {p : Property}
    {pattern : Pattern}
    (hp : p.Built)
    (hPattern : pattern ∈ p.patterns) : pattern.Built := by
  cases hp with
  | premise h | conclusion h =>
      rw [List.mem_singleton.mp hPattern]
      exact h
  | _ => cases hPattern

theorem Pattern.Built.of_mem_leaves
    {p : Pattern}
    {s : Statement}
    (hp : p.Built)
    (hs : s ∈ p.leaves) : s.Built := by
  cases hp with
  | statement h =>
      rw [List.mem_singleton.mp hs]
      exact h
  | _ => cases hs

theorem Pattern.Built.of_mem_parts
    {p q : Pattern}
    (hp : p.Built)
    (hq : q ∈ p.parts) : q.Built := by
  cases hp with
  | statement _ => cases hq
  | conjunction h | disjunction h => exact h q hq
  | negation h =>
      rw [List.mem_singleton.mp hq]
      exact h

end GraphSchema

------------------------------------------------------------
-- Well-Formed Properties
------------------------------------------------------------

namespace GraphSchema

variable [Fingerprint]

/-
  Properties are counted and carry their own fingerprints.
  All are built, and no older property would have kept a
  newer one from being appended.
-/
structure Properties.WellFormed (ps : Properties) : Prop where
  count_eq : ps.count = ps.newestFirst.length
  fingerprint_eq :
    ∀ e ∈ ps.newestFirst,
      e.fingerprint = e.property.fingerprint
  built : ∀ e ∈ ps.newestFirst, e.property.Built
  distinct :
    ps.newestFirst.Pairwise (fun newer older =>
      older.fingerprint = newer.fingerprint →
        older.property.equal newer.property = false)

namespace Properties

/-
  A property is contained when an entry with its
  fingerprint equals it.
-/
theorem contains_iff
    (ps : Properties)
    (p : Property) :
    ps.contains p = true ↔
      ∃ e ∈ ps.newestFirst,
        e.fingerprint = p.fingerprint ∧
          e.property.equal p = true := by
  simp [contains, containsWith, BEq.beq]

namespace WellFormed

theorem empty : Properties.empty.WellFormed where
  count_eq := rfl
  fingerprint_eq := by
    intro e he
    cases he
  built := by
    intro e he
    cases he
  distinct := .nil

/- Appending a built property keeps well-formedness. -/
theorem append
    {ps : Properties}
    {p : Property}
    (h : ps.WellFormed)
    (hp : p.Built) :
    (ps.append p).value.WellFormed := by
  by_cases hContained :
      ps.containsWith p p.fingerprint = true
  · simpa [Properties.append, hContained] using h
  · have hNew :
        ∀ e ∈ ps.newestFirst,
          e.fingerprint = p.fingerprint →
            e.property.equal p = false := by
      intro e he hFingerprint
      apply Bool.eq_false_iff.mpr
      intro hEqual
      apply hContained
      apply (contains_iff ps p).mpr
      exact ⟨e, he, hFingerprint, hEqual⟩
    simp only [Properties.append, hContained]
    constructor
    · simp [h.count_eq]
    · intro e he
      rcases List.mem_cons.mp he with rfl | he
      · rfl
      · exact h.fingerprint_eq e he
    · intro e he
      rcases List.mem_cons.mp he with rfl | he
      · exact hp
      · exact h.built e he
    · exact List.pairwise_cons.mpr ⟨hNew, h.distinct⟩

theorem length_toList
    {ps : Properties}
    (h : ps.WellFormed) :
    ps.toList.length = ps.count := by
  simp [toList, h.count_eq]

/- The entries carry the fingerprints of the properties. -/
theorem fingerprints_perm
    {ps : Properties}
    (h : ps.WellFormed) :
    (ps.newestFirst.map Entry.fingerprint).Perm
      (ps.toList.map Property.fingerprint) := by
  have hMap :
      ps.newestFirst.map Entry.fingerprint =
        (ps.newestFirst.map Entry.property).map
          Property.fingerprint := by
    rw [List.map_map]
    exact List.map_congr_left h.fingerprint_eq
  rw [hMap]
  exact ps.newestFirst.map Entry.property
    |>.reverse_perm.symm.map Property.fingerprint

theorem built_of_mem
    {ps : Properties}
    {p : Property}
    (h : ps.WellFormed)
    (hp : p ∈ ps.toList) : p.Built := by
  rcases (mem_toList_iff ps p).mp hp with ⟨e, he, rfl⟩
  exact h.built e he

end WellFormed

end Properties

/- A built statement has well-formed properties. -/
theorem Statement.Built.wellFormed
    {s : Statement}
    (h : s.Built) : s.properties.WellFormed := by
  match s, h with
  | _, .new v => exact .empty
  | _, .append hs hp => exact hs.wellFormed.append hp

theorem Statement.Built.of_mem_toList
    {s : Statement}
    {p : Property}
    (h : s.Built)
    (hp : p ∈ s.properties.toList) : p.Built :=
  h.wellFormed.built_of_mem hp

end GraphSchema
