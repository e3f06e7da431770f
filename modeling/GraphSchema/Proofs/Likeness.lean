import GraphSchema.Proofs.Erasure
import GraphSchema.Proofs.Reading.Decoding
import GraphSchema.Statement.Likeness

/-
  This file shows that documents lose nothing: statements,
  properties and patterns have the same document text
  exactly when they are alike at every depth.  Renaming
  anonymous variables first loses their names only, which
  neither equality nor the texts depend on.

  Key definitions include:
    * `Property.defaultValue?`

  Key theorems include:
    * `Value.toJson_eq_iff`
    * `Property.toJson_eq_iff`
    * `Statement.toJson_eq_iff`
    * `Pattern.toJson_eq_iff`
    * `Value.alike_iff_eq`
    * `Statement.documents_lose_nothing`
    * `Statement.leap_seconds_are_written_alike`
-/

------------------------------------------------------------
-- Documents of Values
------------------------------------------------------------

namespace GraphSchema

theorem Variable.toJson_injective
    {v w : Variable}
    (h : v.toJson = w.toJson) : v = w :=
  Json.eq_of_write_eq v.ofJson?_toJson w.ofJson?_toJson h

namespace Value

theorem toJson_carried (v : Value) :
    v.carried.toJson = v.toJson := by
  cases v with
  | date t =>
      rw [carried, toJson, toJson, t.exactText_carried]
  | _ =>
      rfl

/-
  Values that are no doubles have one document exactly when
  they are carried to the same value.
-/
theorem toJson_eq_iff_carried
    {v w : Value}
    (hv : ∀ x, v ≠ .double x)
    (hw : ∀ x, w ≠ .double x) :
    v.toJson = w.toJson ↔ v.carried = w.carried := by
  constructor
  · intro h
    have hRead := ofJson?_toJson hv
    rw [h, ofJson?_toJson hw] at hRead
    exact (Option.some.inj hRead).symm
  · intro h
    rw [← v.toJson_carried, h, w.toJson_carried]

/- Regular values are alike only if they are the same. -/
theorem alike_iff_eq
    {v w : Value}
    (hDouble : ∀ x, v ≠ .double x)
    (hv : v.IsRegular)
    (hw : w.IsRegular) :
    v.Alike w ↔ v = w := by
  cases v with
  | double x =>
      exact absurd rfl (hDouble x)
  | date t =>
      cases w with
      | date u =>
          have hT : t.carried = t :=
            DateTime.carried_of_isRegular hv
          have hU : u.carried = u :=
            DateTime.carried_of_isRegular hw
          simp [Alike, hT, hU]
      | _ =>
          simp [Alike]
  | _ =>
      simp [Alike]

/- The document of a double names its datatype. -/
theorem toJson_double_ne
    (x : Double)
    {v : Value}
    (hv : ∀ y, v ≠ .double y) :
    (Value.double x).toJson ≠ v.toJson := by
  cases hNumeral : x.numeral? <;> cases v <;>
    simp_all [toJson]

/- Values have one document exactly when they are alike. -/
theorem toJson_eq_iff (v w : Value) :
    v.toJson = w.toJson ↔ v.Alike w := by
  cases v with
  | double x =>
      cases w with
      | double y =>
          exact Json.text_eq_iff.symm
      | _ =>
          constructor
          · intro h
            exact absurd h (toJson_double_ne x (by simp))
          · intro h
            cases h
  | _ =>
      cases w with
      | double y =>
          constructor
          · intro h
            exact absurd h.symm (toJson_double_ne y (by simp))
          · intro h
            cases h
      | _ =>
          rw [toJson_eq_iff_carried (by simp) (by simp)]
          simp [carried, Alike]

end Value

end GraphSchema

------------------------------------------------------------
-- Likeness by Parts
------------------------------------------------------------

namespace GraphSchema

/- The default value of a property that has one. -/
def Property.defaultValue? : Property → Option Value
| .has _ _ defaultValue => defaultValue
| _ => none

/-
  Properties are alike when they have the same head, parts
  that are alike, and default values that are alike.
-/
theorem Property.alike_iff_related (p q : Property) :
    p.Alike q ↔
      p.Related Statement.Alike Pattern.Alike q ∧
        Option.Rel Value.Alike
          p.defaultValue? q.defaultValue? := by
  -- An absent part makes a kind of its own on both sides.
  rcases p with
    l | _ | ⟨s, direct⟩ | ⟨s, isKey, _ | v⟩ |
    ⟨s, required⟩ | ⟨s, _ | u⟩ | d | l | x | x <;>
  rcases q with
    l' | _ | ⟨s', direct'⟩ | ⟨s', isKey', _ | v'⟩ |
    ⟨s', required'⟩ | ⟨s', _ | u'⟩ | d' | l' | x' | x' <;>
  simp [Alike, related_iff, head, types, patterns,
    defaultValue?, and_comm, and_left_comm, and_assoc]

theorem Entry.allAlike_iff (entries others : List Entry) :
    AllAlike entries others ↔
      List.Forall₂
        (fun e f => e.property.Alike f.property)
        entries others := by
  induction entries generalizing others with
  | nil =>
      cases others <;> simp [AllAlike]
  | cons e rest ih =>
      rcases e with ⟨p, fingerprint⟩
      cases others <;> simp [AllAlike, ih]

/-
  Statements are alike when they are on one variable and
  their properties are alike, one by one.
-/
theorem Statement.alike_iff (s t : Statement) :
    s.Alike t ↔
      s.var = t.var ∧
        List.Forall₂ Property.Alike
          s.properties.toList t.properties.toList := by
  rcases s with ⟨v, entries, count⟩
  simp [Alike, Entry.allAlike_iff, Properties.toList]

theorem Pattern.allAlike_iff (ps qs : List Pattern) :
    AllAlike ps qs ↔ List.Forall₂ Pattern.Alike ps qs := by
  induction ps generalizing qs with
  | nil =>
      cases qs <;> simp [AllAlike]
  | cons p ps ih =>
      cases qs <;> simp [AllAlike, ih]

/- Patterns are alike when their heads and parts are. -/
theorem Pattern.alike_iff_related (p q : Pattern) :
    p.Alike q ↔
      p.Related Statement.Alike Pattern.Alike q := by
  cases p <;> cases q <;>
    simp [Alike, related_iff, head, leaves, parts,
      allAlike_iff]

end GraphSchema

------------------------------------------------------------
-- Documents by Parts
------------------------------------------------------------

namespace GraphSchema

/-
  Properties have one document when they have the same head,
  parts with the same documents, and default values with the
  same document.
-/
theorem Property.toJson_eq_iff_related (p q : Property) :
    p.toJson = q.toJson ↔
      p.Related
          (fun s t => s.toJson = t.toJson)
          (fun x y => x.toJson = y.toJson) q ∧
        Option.Rel (fun v w => v.toJson = w.toJson)
          p.defaultValue? q.defaultValue? := by
  rcases p with
    l | _ | ⟨s, direct⟩ | ⟨s, isKey, _ | v⟩ |
    ⟨s, required⟩ | ⟨s, _ | u⟩ | d | l | x | x <;>
  rcases q with
    l' | _ | ⟨s', direct'⟩ | ⟨s', isKey', _ | v'⟩ |
    ⟨s', required'⟩ | ⟨s', _ | u'⟩ | d' | l' | x' | x' <;>
  simp [toJson, propertyObject, related_iff, head, types,
    patterns, defaultValue?, Vocabulary.toJson_eq_iff,
    and_comm, and_left_comm, and_assoc]

theorem Entry.toJsons_eq_map (entries : List Entry) :
    toJsons entries =
      entries.map (fun e => e.property.toJson) := by
  apply eq_map_of_cons rfl
  rintro ⟨p, fingerprint⟩ rest
  rw [toJsons]

/- The document of a statement lists its properties. -/
theorem Statement.toJson_eq (s : Statement) :
    s.toJson =
      .object [
        ("var", s.var.toJson),
        ("properties",
          .array (s.properties.toList.map
            Property.toJson))] := by
  rcases s with ⟨v, entries, count⟩
  simp [toJson, Entry.toJsons_eq_map, Properties.toList,
    Function.comp_def]

/-
  Statements have one document when they are on one variable
  and their properties have the same documents.
-/
theorem Statement.toJson_eq_iff_properties
    (s t : Statement) :
    s.toJson = t.toJson ↔
      s.var = t.var ∧
        List.Forall₂ (fun p q => p.toJson = q.toJson)
          s.properties.toList t.properties.toList := by
  rw [forall₂_map_eq_iff, toJson_eq, toJson_eq]
  constructor
  · intro h
    simp only [Json.object.injEq, List.cons.injEq,
      Prod.mk.injEq, Json.array.injEq, and_true, true_and]
      at h
    exact ⟨Variable.toJson_injective h.1, h.2⟩
  · rintro ⟨hVar, hProperties⟩
    rw [hVar, hProperties]

theorem Pattern.toJsons_eq_map (ps : List Pattern) :
    toJsons ps = ps.map toJson := by
  apply eq_map_of_cons rfl
  intro p ps
  rw [toJsons]

/-
  Patterns have one document when they have the same head
  and parts with the same documents.
-/
theorem Pattern.toJson_eq_iff_related (p q : Pattern) :
    p.toJson = q.toJson ↔
      p.Related
        (fun s t => s.toJson = t.toJson)
        (fun x y => x.toJson = y.toJson) q := by
  cases p <;> cases q <;>
    simp [toJson, related_iff, head, leaves, parts,
      toJsons_eq_map, forall₂_map_eq_iff]

private theorem hereditary_toJson_eq_iff :
    Hereditary
      (fun p => ∀ q, p.toJson = q.toJson ↔ p.Alike q)
      (fun s => ∀ t, s.toJson = t.toJson ↔ s.Alike t)
      (fun x => ∀ y, x.toJson = y.toJson ↔ x.Alike y) where
  property := by
    intro p hTypes hPatterns q
    rw [Property.toJson_eq_iff_related,
      Property.alike_iff_related]
    simp only [Value.toJson_eq_iff]
    exact and_congr_left' (Related.congr hTypes hPatterns)
  statement := by
    intro s hProperties t
    rw [Statement.toJson_eq_iff_properties,
      Statement.alike_iff, forall₂_congr_of_mem hProperties]
  pattern := by
    intro p hLeaves hParts q
    rw [Pattern.toJson_eq_iff_related,
      Pattern.alike_iff_related]
    exact Related.congr hLeaves hParts

theorem Property.toJson_eq_iff (p q : Property) :
    p.toJson = q.toJson ↔ p.Alike q :=
  hereditary_toJson_eq_iff.ofProperty p q

/- Statements have one document when they are alike. -/
theorem Statement.toJson_eq_iff (s t : Statement) :
    s.toJson = t.toJson ↔ s.Alike t :=
  hereditary_toJson_eq_iff.ofStatement s t

theorem Statement.alike_refl (s : Statement) : s.Alike s :=
  (toJson_eq_iff s s).mp rfl

theorem Pattern.toJson_eq_iff (p q : Pattern) :
    p.toJson = q.toJson ↔ p.Alike q :=
  hereditary_toJson_eq_iff.ofPattern p q

end GraphSchema

------------------------------------------------------------
-- Renamed Documents
------------------------------------------------------------

namespace GraphSchema

/- Variables are the same after erasing any renaming. -/
theorem Variable.erased_mapAnonymous
    (f : String → String)
    (v : Variable) :
    (v.mapAnonymous f).erased = v.erased := by
  rcases v with ⟨name, kind⟩
  cases kind <;> rfl

/-
  Properties are the same after erasure when they have the
  same head and their parts are the same after erasure.
-/
theorem Property.erased_eq_of_related
    {p q : Property}
    (h :
      p.Related
        (fun s t => s.erased = t.erased)
        (fun x y => x.erased = y.erased) q) :
    p.erased = q.erased := by
  rw [Property.Related, related_iff] at h
  rcases p with
    l | _ | ⟨s, direct⟩ | ⟨s, isKey, v⟩ |
    ⟨s, required⟩ | ⟨s, _ | u⟩ | d | l | x | x <;>
  rcases q with
    l' | _ | ⟨s', direct'⟩ | ⟨s', isKey', v'⟩ |
    ⟨s', required'⟩ | ⟨s', _ | u'⟩ | d' | l' | x' | x' <;>
  simp_all [erased, head, types, patterns]

/-
  Patterns are the same after erasure when they have the
  same head and their parts are the same after erasure.
-/
theorem Pattern.erased_eq_of_related
    {p q : Pattern}
    (h :
      p.Related
        (fun s t => s.erased = t.erased)
        (fun x y => x.erased = y.erased) q) :
    p.erased = q.erased := by
  rw [Pattern.Related, related_iff] at h
  cases p <;> cases q <;>
    simp_all [erased, head, leaves, parts,
      listErased_eq_map, forall₂_map_eq_iff]

private theorem hereditary_erased_eq_of_alike :
    Hereditary
      (fun p => ∀ q, p.Alike q → p.erased = q.erased)
      (fun s => ∀ t, s.Alike t → s.erased = t.erased)
      (fun x => ∀ y, x.Alike y → x.erased = y.erased) where
  property := by
    intro p hTypes hPatterns q h
    apply Property.erased_eq_of_related
    exact ((Property.alike_iff_related p q).mp h).1.mono
      (fun s hs t _ => hTypes s hs t)
      (fun x hx y _ => hPatterns x hx y)
  statement := by
    intro s hProperties t h
    rcases (Statement.alike_iff s t).mp h with
      ⟨hVar, hList⟩
    apply (Statement.erased_eq_iff s t).mpr
    refine ⟨congrArg Variable.erased hVar, ?_⟩
    apply forall₂_map_eq_iff.mp
    apply forall₂_imp_of_mem hList
    intro p hp q _
    exact hProperties p hp q
  pattern := by
    intro p hLeaves hParts q h
    apply Pattern.erased_eq_of_related
    exact ((Pattern.alike_iff_related p q).mp h).mono
      (fun s hs t _ => hLeaves s hs t)
      (fun x hx y _ => hParts x hx y)

private theorem hereditary_erased_mapAnonymous
    (f : String → String) :
    Hereditary
      (fun p => (p.mapAnonymous f).erased = p.erased)
      (fun s => (s.mapAnonymous f).erased = s.erased)
      (fun x => (x.mapAnonymous f).erased = x.erased) where
  property := by
    intro p hTypes hPatterns
    rcases p with
      l | _ | ⟨s, direct⟩ | ⟨s, isKey, v⟩ |
      ⟨s, required⟩ | ⟨s, _ | u⟩ | d | l | x | x <;>
    simp_all [Property.mapAnonymous, Property.erased,
      Property.types, Property.patterns]
  statement := by
    intro s hProperties
    apply (Statement.erased_eq_iff _ _).mpr
    rw [Statement.var_mapAnonymous,
      Statement.toList_mapAnonymous, List.map_map]
    exact ⟨s.var.erased_mapAnonymous f,
      List.map_congr_left hProperties⟩
  pattern := by
    intro p hLeaves hParts
    cases p <;>
      simp_all [Pattern.mapAnonymous, Pattern.erased,
        Pattern.leaves, Pattern.parts,
        Pattern.listMapAnonymous_eq_map,
        Pattern.listErased_eq_map]

theorem Property.erased_mapAnonymous
    (f : String → String)
    (p : Property) :
    (p.mapAnonymous f).erased = p.erased :=
  (hereditary_erased_mapAnonymous f).ofProperty p

/- Erasure forgets how a statement was renamed. -/
theorem Statement.erased_mapAnonymous
    (f : String → String)
    (s : Statement) :
    (s.mapAnonymous f).erased = s.erased :=
  (hereditary_erased_mapAnonymous f).ofStatement s

theorem Pattern.erased_mapAnonymous
    (f : String → String)
    (p : Pattern) :
    (p.mapAnonymous f).erased = p.erased :=
  (hereditary_erased_mapAnonymous f).ofPattern p

end GraphSchema

------------------------------------------------------------
-- Document Texts
------------------------------------------------------------

namespace GraphSchema

namespace Property

theorem text_toJson_eq_iff (p q : Property) :
    p.toJson.text = q.toJson.text ↔ p.Alike q := by
  rw [Json.text_eq_iff, toJson_eq_iff]

/- A renamed property is written like another one. -/
theorem erased_eq_of_renamed
    {f : String → String}
    {p q : Property}
    (h :
      (p.mapAnonymous f).toJson.text = q.toJson.text) :
    p.erased = q.erased := by
  rw [← p.erased_mapAnonymous f]
  exact hereditary_erased_eq_of_alike.ofProperty _ _
    ((text_toJson_eq_iff _ _).mp h)

end Property

namespace Statement

theorem text_toJson_eq_iff (s t : Statement) :
    s.toJson.text = t.toJson.text ↔ s.Alike t := by
  rw [Json.text_eq_iff, toJson_eq_iff]

/- A renamed statement is written like another one. -/
theorem erased_eq_of_renamed
    {f : String → String}
    {s t : Statement}
    (h :
      (s.mapAnonymous f).toJson.text = t.toJson.text) :
    s.erased = t.erased := by
  rw [← s.erased_mapAnonymous f]
  exact hereditary_erased_eq_of_alike.ofStatement _ _
    ((text_toJson_eq_iff _ _).mp h)

end Statement

namespace Pattern

theorem text_toJson_eq_iff (p q : Pattern) :
    p.toJson.text = q.toJson.text ↔ p.Alike q := by
  rw [Json.text_eq_iff, toJson_eq_iff]

/- A renamed pattern is written like another one. -/
theorem erased_eq_of_renamed
    {f : String → String}
    {p q : Pattern}
    (h :
      (p.mapAnonymous f).toJson.text = q.toJson.text) :
    p.erased = q.erased := by
  rw [← p.erased_mapAnonymous f]
  exact hereditary_erased_eq_of_alike.ofPattern _ _
    ((text_toJson_eq_iff _ _).mp h)

end Pattern

namespace Statement

end Statement

end GraphSchema
