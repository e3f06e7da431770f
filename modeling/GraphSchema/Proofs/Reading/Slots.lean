import GraphSchema.Encoding.Basic

/-
  This file shows what going through the members of a record
  once gives.  There is a slot for each declared member, and
  what the slots hold in the end is what looking up the two
  names gives.

  Key definitions include:
    * `Json.OccursOnce`

  Key theorems include:
    * `Json.content?_eq_some_iff`
    * `Json.join_foldlM_fillSlot`
    * `Json.pair?_object`
-/

------------------------------------------------------------
-- Members of One Name
------------------------------------------------------------

namespace GraphSchema

namespace Json

/-
  Exactly one of the members has a given name, and it has a
  given content.
-/
def OccursOnce
    (name : String)
    (content : Json)
    (members : List (String × Json)) : Prop :=
  ∃ before after,
    members = before ++ (name, content) :: after ∧
      ∀ m ∈ before ++ after, m.1 ≠ name

theorem occursOnce_iff_filter
    {name : String}
    {content : Json}
    {members : List (String × Json)} :
    OccursOnce name content members ↔
      members.filter (fun m => m.1 == name) =
        [(name, content)] := by
  rw [List.filter_eq_cons_iff]
  constructor
  · rintro ⟨before, after, hMembers, hOther⟩
    refine ⟨before, after, hMembers, ?_, by simp, ?_⟩
    · intro m hm
      simpa using hOther m (List.mem_append_left after hm)
    · rw [List.filter_eq_nil_iff]
      intro m hm
      simpa using hOther m (List.mem_append_right before hm)
  · rintro ⟨before, after, hMembers, hBefore, _, hAfter⟩
    refine ⟨before, after, hMembers, ?_⟩
    rw [List.filter_eq_nil_iff] at hAfter
    intro m hm
    rcases List.mem_append.mp hm with hm | hm
    · simpa using hBefore m hm
    · simpa using hAfter m hm

/- The content of a name is that of its only member. -/
theorem content?_eq_some_iff
    {name : String}
    {content : Json}
    {members : List (String × Json)} :
    content? name members = some content ↔
      OccursOnce name content members := by
  rw [occursOnce_iff_filter, content?]
  split
  · next other found hNamed =>
      have hMember :
          (other, found) ∈
            members.filter (fun m => m.1 == name) := by
        rw [hNamed]
        exact List.mem_singleton_self _
      have hName : other = name := by
        simpa using (List.mem_filter.mp hMember).2
      rw [hNamed, hName]
      simp
  · next hOther =>
      constructor
      · intro h
        cases h
      · intro h
        exact absurd h (hOther name content)

/- The content of a name depends on its members only. -/
theorem content?_eq_of_perm
    {name : String}
    {members others : List (String × Json)}
    (h :
      (members.filter (fun m => m.1 == name)).Perm
        (others.filter (fun m => m.1 == name))) :
    content? name members = content? name others := by
  ext content
  rw [content?_eq_some_iff, content?_eq_some_iff,
    occursOnce_iff_filter, occursOnce_iff_filter]
  constructor
  · intro hNamed
    rw [hNamed] at h
    exact (List.singleton_perm.mp h).symm
  · intro hNamed
    rw [hNamed] at h
    exact List.perm_singleton.mp h

end Json

end GraphSchema

------------------------------------------------------------
-- Slots
------------------------------------------------------------

namespace GraphSchema

namespace Json

section Slots

variable {α β : Type}
variable {first second : String}
variable {readFirst : Json → Option α}
variable {readSecond : Json → Option β}

/- A slot passes over the members of other names. -/
theorem foldlM_fillSlot_filter
    (name : String)
    (read : Json → Option α)
    (members : List (String × Json))
    (slot : Option α) :
    (members.filter (fun m => m.1 == name)).foldlM
        (fillSlot name read) slot =
      members.foldlM (fillSlot name read) slot := by
  rw [List.foldlM_filter]
  congr
  funext slot m
  by_cases hName : m.1 = name <;>
    simp [fillSlot, hName]

/-
  A slot that starts empty holds in the end what is read of
  the content of its name.
-/
theorem join_foldlM_fillSlot
    (name : String)
    (read : Json → Option α)
    (members : List (String × Json)) :
    (members.foldlM (fillSlot name read) none).join =
      (content? name members).bind read := by
  have hNames :
      ∀ m ∈ members.filter (fun m => m.1 == name),
        m.1 = name := by
    intro m hm
    simpa using (List.mem_filter.mp hm).2
  rw [← foldlM_fillSlot_filter, content?]
  generalize members.filter (fun m => m.1 == name) = found
    at hNames ⊢
  rcases found with _ | ⟨⟨n, c⟩, _ | ⟨⟨n', c'⟩, more⟩⟩
  · rfl
  · have hName : n = name := hNames (n, c) (by simp)
    cases hRead : read c <;>
      simp [fillSlot, hName, hRead]
  · -- The second member finds the slot full.
    have hName : n = name := hNames (n, c) (by simp)
    have hName' : n' = name := hNames (n', c') (by simp)
    cases hRead : read c <;>
      simp [fillSlot, hName, hName', hRead]

/- The two slots are filled apart from each other. -/
theorem foldlM_fillSlots
    (members : List (String × Json))
    (slots : Option α × Option β) :
    members.foldlM
        (fillSlots first second readFirst readSecond) slots =
      (members.foldlM (fillSlot first readFirst)
          slots.1).bind (fun a =>
        (members.foldlM (fillSlot second readSecond)
          slots.2).map (fun b => (a, b))) := by
  induction members generalizing slots with
  | nil =>
      rfl
  | cons m members ih =>
      rw [List.foldlM_cons, List.foldlM_cons,
        List.foldlM_cons]
      cases hFirst : fillSlot first readFirst slots.1 m <;>
        cases hSecond : fillSlot second readSecond slots.2 m
      case some.some a b =>
        simp [fillSlots, hFirst, hSecond, ih]
      all_goals
        simp [fillSlots, hFirst, hSecond]

/-
  Going through an object once reads what looking up its two
  declared names does.
-/
theorem pair?_object
    (members : List (String × Json)) :
    (Json.object members).pair? first second
        readFirst readSecond =
      ((content? first members).bind readFirst).bind
        (fun a =>
          ((content? second members).bind readSecond).map
            (fun b => (a, b))) := by
  rw [← join_foldlM_fillSlot, ← join_foldlM_fillSlot, pair?,
    foldlM_fillSlots]
  rcases members.foldlM (fillSlot first readFirst) none with
      _ | _ | a <;>
    rcases members.foldlM (fillSlot second readSecond) none
      with _ | _ | b <;>
    rfl

theorem pair?_array (c d : Json) :
    (Json.array [c, d]).pair? first second
        readFirst readSecond =
      (readFirst c).bind (fun a =>
        (readSecond d).map (fun b => (a, b))) := by
  rw [pair?]
  cases readFirst c <;> cases readSecond d <;> rfl

/- What a record is read as was read of two contents. -/
theorem exists_read_of_pair?
    {j : Json}
    {a : α}
    {b : β}
    (h :
      j.pair? first second readFirst readSecond =
        some (a, b)) :
    ∃ c d, readFirst c = some a ∧ readSecond d = some b := by
  cases j with
  | object members =>
      rw [pair?_object] at h
      simp only [Option.bind_eq_some_iff,
        Option.map_eq_some_iff, Prod.mk.injEq] at h
      rcases h with
        ⟨_, ⟨c, _, hFirst⟩, _, ⟨d, _, hSecond⟩, rfl, rfl⟩
      exact ⟨c, d, hFirst, hSecond⟩
  | array items =>
      rcases items with _ | ⟨c, _ | ⟨d, _ | ⟨e, more⟩⟩⟩
      case cons.cons.nil =>
        rw [pair?_array] at h
        simp only [Option.bind_eq_some_iff,
          Option.map_eq_some_iff, Prod.mk.injEq] at h
        rcases h with ⟨_, hFirst, _, hSecond, rfl, rfl⟩
        exact ⟨c, d, hFirst, hSecond⟩
      all_goals
        cases h
  | _ =>
      cases h

end Slots

end Json

end GraphSchema
