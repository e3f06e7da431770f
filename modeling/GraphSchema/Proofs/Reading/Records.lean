import GraphSchema.Proofs.Reading.Decoding
import GraphSchema.Proofs.Reading.Nesting

/-
  This file shows that a record is decoded by its declared
  members only: the order of the members and members of
  other names do not matter.

  Key definitions include:
    * `Json.ReadsRecord`

  Key theorems include:
    * `Json.readsRecord`
    * `Json.records_by_declared_members`
-/

------------------------------------------------------------
-- Records
------------------------------------------------------------

namespace GraphSchema

namespace Json

/-
  A reader reads a record with two declared members:
  * an object is accepted if each declared name occurs
    exactly once and its content is accepted, and the
    result is made of what the two contents are read as;
  * objects whose declared members are the same up to their
    order are read alike, whatever their other members are;
  * the array of the two contents is read as the object.
-/
structure ReadsRecord
    {α β γ : Type}
    (first second : String)
    (readFirst : Json → Option α)
    (readSecond : Json → Option β)
    (make : α → β → γ)
    (read : Json → Option γ) : Prop where
  object :
    ∀ (s : String) (members : List (String × Json)),
      Spells s (.object members) →
      ∀ a,
        decode? read s = some a ↔
          ∃ c d x y,
            OccursOnce first c members ∧
            OccursOnce second d members ∧
            readFirst c = some x ∧
            readSecond d = some y ∧
            make x y = a
  declared :
    ∀ (s t : String) (members others : List (String × Json)),
      Spells s (.object members) →
      Spells t (.object others) →
      (members.filter (fun m =>
          m.1 == first || m.1 == second)).Perm
        (others.filter (fun m =>
          m.1 == first || m.1 == second)) →
      decode? read s = decode? read t
  array :
    ∀ (s t : String) (members : List (String × Json))
        (c d : Json),
      Spells s (.object members) →
      Spells t (.array [c, d]) →
      OccursOnce first c members →
      OccursOnce second d members →
      decode? read t = decode? read s

/- A text is decoded as the document that it spells. -/
theorem decode?_of_spells
    {A : Type}
    (read : Json → Option A)
    {s : String}
    {j : Json}
    (h : Spells s j) : decode? read s = read j := by
  rw [decode?, h, Option.bind_some]

/- What is made of two declared members reads a record. -/
theorem readsRecord
    {α β γ : Type}
    {first second : String}
    {readFirst : Json → Option α}
    {readSecond : Json → Option β}
    {make : α → β → γ}
    {read : Json → Option γ}
    (hRead :
      ∀ j,
        read j =
          (j.pair? first second readFirst readSecond).map
            (fun p => make p.1 p.2)) :
    ReadsRecord first second readFirst readSecond make
      read where
  object := by
    intro s members hText a
    rw [decode?_of_spells read hText, hRead, pair?_object]
    simp only [Option.map_eq_some_iff,
      Option.bind_eq_some_iff, content?_eq_some_iff]
    constructor
    · rintro ⟨_, ⟨x, ⟨c, hFirst, hx⟩, y,
        ⟨d, hSecond, hy⟩, rfl⟩, hMake⟩
      exact ⟨c, d, x, y, hFirst, hSecond, hx, hy, hMake⟩
    · rintro ⟨c, d, x, y, hFirst, hSecond, hx, hy, hMake⟩
      exact ⟨_, ⟨x, ⟨c, hFirst, hx⟩, y,
        ⟨d, hSecond, hy⟩, rfl⟩, hMake⟩
  declared := by
    intro s t members others hText hOther hPerm
    -- The members of either name are among the declared.
    have hContent :
        ∀ name,
          (∀ n, (n == name && (n == first || n == second)) =
            (n == name)) →
          content? name members = content? name others := by
      intro name hName
      have hNamed := hPerm.filter (fun m => m.1 == name)
      simp only [List.filter_filter, hName] at hNamed
      exact content?_eq_of_perm hNamed
    have hFirst :
        content? first members = content? first others := by
      apply hContent
      intro n
      cases n == first <;> simp
    have hSecond :
        content? second members = content? second others := by
      apply hContent
      intro n
      cases n == second <;> simp
    rw [decode?_of_spells read hText,
      decode?_of_spells read hOther, hRead, hRead,
      pair?_object, pair?_object, hFirst, hSecond]
  array := by
    intro s t members c d hText hArray hFirst hSecond
    rw [decode?_of_spells read hText,
      decode?_of_spells read hArray, hRead, hRead,
      pair?_object, pair?_array,
      content?_eq_some_iff.mpr hFirst,
      content?_eq_some_iff.mpr hSecond]
    rfl

/-
  Arguments and variables are decoded by their declared
  members only.  The members of an object may be written in
  any order and between any other members, whose contents
  are any documents.  A text that is put together of the
  texts of its members or items is read as such an object
  or array, so that nothing inside of a member is taken for
  another one.
-/
theorem records_by_declared_members :
    (∀ (texts : List (String × String))
        (members : List (String × Json)),
      List.Forall₂ SpellsMember texts members →
        Spells (objectText texts) (.object members)) ∧
    (∀ (texts : List String) (items : List Json),
      List.Forall₂ Spells texts items →
        Spells (arrayText texts) (.array items)) ∧
    ReadsRecord "param" "value"
      Vocabulary.ofJson? Value.ofJson?
      Argument.mk Argument.ofJson? ∧
    ReadsRecord "name" "kind"
      string? Vocabulary.ofJson?
      Variable.mk Variable.ofJson? := by
  refine ⟨?_, ?_, ?_, ?_⟩
  · intro texts members h
    exact spells_objectText h
  · intro texts items h
    exact spells_arrayText h
  · exact readsRecord (fun j => rfl)
  · exact readsRecord (fun j => rfl)

/-
  A member of another name holds an object with a declared
  name, and the declared members stand in the other order.
  One more member of a declared name, far behind, makes the
  object be rejected.
-/
theorem records_by_declared_members_amongOthers :
    decode? Argument.ofJson?
        (objectText [
          ("\"note\"", "[\x7b\"param\":null\x7d]"),
          ("\"value\"", "\x7b\"string\":\"age\"\x7d"),
          ("\"param\"", "\"description\"")]) =
      some ⟨.description, .string "age"⟩ ∧
    decode? Argument.ofJson?
        (arrayText [
          "\"description\"",
          "\x7b\"string\":\"age\"\x7d"]) =
      some ⟨.description, .string "age"⟩ ∧
    decode? Argument.ofJson?
        (objectText [
          ("\"value\"", "\x7b\"string\":\"age\"\x7d"),
          ("\"param\"", "\"description\""),
          ("\"note\"", "[\x7b\"param\":null\x7d]"),
          ("\"param\"", "null")]) =
      none := by
  rcases records_by_declared_members with
    ⟨hObject, hArray, hArgument, _⟩
  have hNote :
      SpellsMember
        ("\"note\"", "[\x7b\"param\":null\x7d]")
        ("note", .array [.object [("param", .null)]]) :=
    spellsMember_text "note"
      (.array [.object [("param", .null)]])
  have hValue :
      SpellsMember
        ("\"value\"", "\x7b\"string\":\"age\"\x7d")
        ("value", (Value.string "age").toJson) :=
    spellsMember_text "value" (Value.string "age").toJson
  have hParam :
      SpellsMember ("\"param\"", "\"description\"")
        ("param", .string "description") :=
    spellsMember_text "param" (.string "description")
  have hAgain :
      SpellsMember ("\"param\"", "null") ("param", .null) :=
    spellsMember_text "param" .null
  have hMembers :=
    hObject _ _
      (.cons hNote (.cons hValue (.cons hParam .nil)))
  have hTwice :=
    hObject _ _
      (.cons hValue
        (.cons hParam (.cons hNote (.cons hAgain .nil))))
  have hItems :=
    hArray _ _
      (.cons hParam.content (.cons hValue.content .nil))
  have hDecode :=
    (hArgument.object _ _ hMembers
        ⟨.description, .string "age"⟩).mpr
      ⟨_, _, _, _, content?_eq_some_iff.mp rfl,
        content?_eq_some_iff.mp rfl, rfl, rfl, rfl⟩
  refine ⟨hDecode, ?_, ?_⟩
  · rw [← hDecode]
    exact hArgument.array _ _ _ _ _ hMembers hItems
      (content?_eq_some_iff.mp rfl)
      (content?_eq_some_iff.mp rfl)
  · rw [Option.eq_none_iff_forall_ne_some]
    intro a ha
    rcases (hArgument.object _ _ hTwice a).mp ha with
      ⟨c, _, _, _, hFirst, _⟩
    rw [← content?_eq_some_iff] at hFirst
    cases hFirst

end Json

end GraphSchema
