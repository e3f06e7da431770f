import GraphSchema.Proofs.Reading.Document
import GraphSchema.Text.Joined

/-
  This file shows that the text of a document is read the
  same inside of a larger text: what follows it does not
  change its tokens, and the containers that are open around
  it do not change its structure.  So an object is read from
  the texts of its members, and an array from those of its
  items, whatever these texts are.

  Key definitions include:
    * `Json.State.onto`
    * `Json.advance?`
    * `Json.Spells`
    * `Json.objectText`
    * `Json.arrayText`

  Key theorems include:
    * `Json.Token.ofChars?_append_of_some`
    * `Json.State.foldlM_step_onto`
    * `Json.advance?_of_spells`
    * `Json.spells_arrayText`
    * `Json.spells_objectText`
-/

------------------------------------------------------------
-- Numerals in Front of Other Text
------------------------------------------------------------

namespace GraphSchema

theorem Digit.char_of_ofChar?
    {c : Char}
    {d : Digit}
    (h : ofChar? c = some d) : d.char = c := by
  unfold ofChar? at h
  split at h
  · next hRange =>
      cases h
      have hCode : c.toNat - 48 + 48 = c.toNat := by
        omega
      rw [char, hCode, Char.ofNat_toNat]
  · cases h

/- The digits of a text end before what follows it. -/
theorem Digit.takeDigits_append_of_endsBefore
    (cs : List Char)
    {rest : List Char}
    (hRest : EndsBefore rest) :
    takeDigits (cs ++ rest) =
      ((takeDigits cs).1, (takeDigits cs).2 ++ rest) := by
  induction cs with
  | nil =>
      exact takeDigits_append [] hRest
  | cons c cs ih =>
      cases hDigit : ofChar? c <;>
        simp [takeDigits, hDigit, ih]

namespace Numeral

theorem scanSign_append
    (c : Char)
    (cs rest : List Char) :
    scanSign (c :: cs ++ rest) =
      ((scanSign (c :: cs)).1,
        (scanSign (c :: cs)).2 ++ rest) := by
  by_cases h : c = '-'
  · simp [scanSign, h]
  · simp [scanSign, h]

/- A whole part is read in front of other text. -/
theorem scanWhole_append_of_some
    {cs tail rest : List Char}
    {n : Nat}
    (hRest : Digit.EndsBefore rest)
    (h : scanWhole cs = some (n, tail)) :
    scanWhole (cs ++ rest) = some (n, tail ++ rest) := by
  have hTake := Digit.takeDigits_append_of_endsBefore cs hRest
  cases cs with
  | nil =>
      simp [scanWhole, Digit.takeDigits] at h
  | cons c cs =>
      rw [List.cons_append] at hTake ⊢
      by_cases hZero : c = '0'
      · have hRead : 0 = n ∧ cs = tail := by
          simpa [scanWhole, hZero] using h
        simp [scanWhole, hZero, hRead]
      · rcases hDigits : Digit.takeDigits (c :: cs) with
          ⟨_ | ⟨d, ds⟩, behind⟩
        · simp [scanWhole, hZero, hDigits] at h
        · have hRead :
              Digit.number (d :: ds) = n ∧ behind = tail := by
            simpa [scanWhole, hZero, hDigits] using h
          simp [scanWhole, hZero, hTake, hDigits, hRead]

theorem scanFraction_append_of_some
    {cs tail rest : List Char}
    {ds : List Digit}
    (hRest : EndsBefore rest)
    (h : scanFraction cs = some (ds, tail)) :
    scanFraction (cs ++ rest) = some (ds, tail ++ rest) := by
  cases cs with
  | nil =>
      cases h
      exact scanFraction_fractionChars [] hRest.digits
        (fun hHead => (hRest '.' hHead).2.1 rfl)
  | cons c cs =>
      by_cases hPoint : c = '.'
      · have hTake :=
          Digit.takeDigits_append_of_endsBefore cs
            hRest.digits
        rcases hDigits : Digit.takeDigits cs with
          ⟨_ | ⟨e, es⟩, behind⟩
        · simp [scanFraction, hPoint, hDigits] at h
        · have hRead : e :: es = ds ∧ behind = tail := by
            simpa [scanFraction, hPoint, hDigits] using h
          rw [← hRead.1, ← hRead.2]
          simp [scanFraction, hPoint, hTake, hDigits]
      · have hRead : [] = ds ∧ c :: cs = tail := by
          simpa [scanFraction, hPoint] using h
        rw [← hRead.1, ← hRead.2]
        simp [scanFraction, hPoint]

theorem scanPower_append_of_some
    {negative : Bool}
    {cs tail rest : List Char}
    {e : Option Int}
    (hRest : Digit.EndsBefore rest)
    (h : scanPower negative cs = some (e, tail)) :
    scanPower negative (cs ++ rest) =
      some (e, tail ++ rest) := by
  have hTake := Digit.takeDigits_append_of_endsBefore cs hRest
  rcases hDigits : Digit.takeDigits cs with
    ⟨_ | ⟨d, ds⟩, behind⟩
  · simp [scanPower, hDigits] at h
  · simp only [scanPower, hDigits, Option.some.injEq,
      Prod.mk.injEq] at h
    simp [scanPower, hTake, hDigits, h]

/- And so is the power of ten, with or without a sign. -/
theorem scanExponent_append_of_some
    {cs tail rest : List Char}
    {e : Option Int}
    (hRest : EndsBefore rest)
    (h : scanExponent cs = some (e, tail)) :
    scanExponent (cs ++ rest) = some (e, tail ++ rest) := by
  cases cs with
  | nil =>
      cases h
      exact scanExponent_powerChars false none hRest
  | cons c cs =>
      by_cases hLetter : c = 'e' ∨ c = 'E'
      · -- The digits start behind the sign, if there is one.
        have hPower :
            ∃ negative digits,
              scanPower negative digits = some (e, tail) ∧
                scanExponent (c :: cs ++ rest) =
                  scanPower negative (digits ++ rest) := by
          rcases cs with _ | ⟨d, ds⟩
          · simp [scanExponent, hLetter, scanPower,
              Digit.takeDigits] at h
          · by_cases hMinus : d = '-'
            · refine ⟨true, ds, ?_, ?_⟩
              · simpa [scanExponent, hLetter, hMinus] using h
              · simp [scanExponent, hLetter, hMinus]
            · by_cases hPlus : d = '+'
              · refine ⟨false, ds, ?_, ?_⟩
                · simpa [scanExponent, hLetter, hPlus] using h
                · simp [scanExponent, hLetter, hPlus]
              · refine ⟨false, d :: ds, ?_, ?_⟩
                · simpa [scanExponent, hLetter, hMinus, hPlus]
                    using h
                · simp [scanExponent, hLetter, hMinus, hPlus]
        rcases hPower with ⟨negative, digits, hRead, hEq⟩
        rw [hEq]
        exact scanPower_append_of_some hRest.digits hRead
      · have hRead : none = e ∧ c :: cs = tail := by
          simpa [scanExponent, hLetter] using h
        rw [← hRead.1, ← hRead.2]
        simp [scanExponent, hLetter]

theorem exists_cons_of_scanWhole
    {cs tail : List Char}
    {n : Nat}
    (h : scanWhole cs = some (n, tail)) :
    ∃ (d : Digit) (ds : List Char), cs = d.char :: ds := by
  cases cs with
  | nil =>
      cases h
  | cons c cs =>
      cases hDigit : Digit.ofChar? c with
      | none =>
          have hZero : c ≠ '0' := by
            rintro rfl
            cases hDigit
          simp [scanWhole, hZero, Digit.takeDigits, hDigit]
            at h
      | some d =>
          exact ⟨d, cs, by rw [Digit.char_of_ofChar? hDigit]⟩

theorem exists_cons_of_scan
    {cs tail : List Char}
    {n : Numeral}
    (h : scan cs = some (n, tail)) :
    ∃ c ds,
      cs = c :: ds ∧ (c = '-' ∨ ∃ d : Digit, c = d.char) := by
  cases cs with
  | nil =>
      cases h
  | cons c cs =>
      by_cases hMinus : c = '-'
      · exact ⟨c, cs, rfl, .inl hMinus⟩
      · have hSign : scanSign (c :: cs) = (false, c :: cs) := by
          simp [scanSign, hMinus]
        unfold scan at h
        rw [hSign] at h
        simp only [Option.bind_eq_bind,
          Option.bind_eq_some_iff, Prod.exists] at h
        obtain ⟨whole, behind, hWhole, _⟩ := h
        rcases exists_cons_of_scanWhole hWhole with
          ⟨d, ds, hChars⟩
        exact ⟨d.char, ds, hChars, .inr ⟨d, rfl⟩⟩

/-
  A numeral at the front of a text is read the same if
  something follows the text that does not go on with it.
-/
theorem scan_append_of_some
    {cs tail rest : List Char}
    {n : Numeral}
    (hRest : EndsBefore rest)
    (h : scan cs = some (n, tail)) :
    scan (cs ++ rest) = some (n, tail ++ rest) := by
  cases cs with
  | nil =>
      cases h
  | cons c cs =>
      unfold scan at h ⊢
      rw [scanSign_append]
      simp only [Option.bind_eq_bind, Option.bind_eq_some_iff,
        Option.pure_def, Option.some.injEq, Prod.mk.injEq,
        Prod.exists] at h ⊢
      obtain ⟨whole, cs₁, hWhole, ds, cs₂, hFraction, e, cs₃,
        hExponent, hNumeral, hTail⟩ := h
      exact ⟨whole, cs₁ ++ rest,
        scanWhole_append_of_some hRest.digits hWhole,
        ds, cs₂ ++ rest,
        scanFraction_append_of_some hRest hFraction,
        e, cs₃ ++ rest,
        scanExponent_append_of_some hRest hExponent,
        hNumeral, by rw [hTail]⟩

end Numeral

end GraphSchema

------------------------------------------------------------
-- Tokens in Front of Other Text
------------------------------------------------------------

namespace GraphSchema

namespace Json

/- A literal is read the same whatever follows the text. -/
theorem Literal.scan_append_of_some
    {cs tail : List Char}
    {pieces : List Piece}
    (rest : List Char)
    (h : scan cs = some (pieces, tail)) :
    scan (cs ++ rest) = some (pieces, tail ++ rest) := by
  fun_induction scan cs generalizing pieces with
  | case1 cs =>
      simp only [Option.some.injEq, Prod.mk.injEq] at h
      simp [scan, h]
  | case2 a b c d cs ih =>
      simp only [Option.bind_eq_bind,
        Option.bind_eq_some_iff, Option.pure_def,
        Option.some.injEq, Prod.mk.injEq,
        Prod.exists] at h
      obtain ⟨a', ha, b', hb, c', hc, d', hd, more, behind,
        hScan, hPieces, hTail⟩ := h
      subst hTail
      simp [scan, ha, hb, hc, hd, ih hScan, hPieces]
  | case3 letter cs _ ih =>
      simp only [Option.bind_eq_bind,
        Option.bind_eq_some_iff, Option.pure_def,
        Option.some.injEq, Prod.mk.injEq,
        Prod.exists] at h
      obtain ⟨c, hLetter, more, behind, hScan, hPieces,
        hTail⟩ := h
      subst hTail
      have hUnit : letter ≠ 'u' := by
        rintro rfl
        cases hLetter
      rw [List.cons_append, List.cons_append,
        scan_letter hLetter hUnit, ih hScan, ← hPieces]
      rfl
  | case4 =>
      cases h
  | case5 c cs hQuote _ _ hPlain ih =>
      simp only [Option.bind_eq_bind,
        Option.bind_eq_some_iff, Option.pure_def,
        Option.some.injEq, Prod.mk.injEq,
        Prod.exists] at h
      obtain ⟨more, behind, hScan, hPieces, hTail⟩ := h
      subst hTail
      rcases not_or.mp hPlain with ⟨hSlash, hControl⟩
      rw [List.cons_append,
        scan_plain hQuote hSlash hControl, ih hScan,
        ← hPieces]
      rfl
  | case6 =>
      cases h

namespace Token

/-
  A token at the front of a text is read the same if
  something follows the text that ends numerals.
-/
theorem scan_append_of_some
    {cs tail rest : List Char}
    {t : Token}
    (hRest : Numeral.EndsBefore rest)
    (h : scan cs = some (t, tail)) :
    scan (cs ++ rest) = some (t, tail ++ rest) := by
  unfold scan at h
  split at h
  case h_10 cs =>
    rcases Option.map_eq_some_iff.mp h with
      ⟨⟨pieces, behind⟩, hScan, hToken⟩
    have hMore := Literal.scan_append_of_some rest hScan
    simp only [Prod.mk.injEq] at hToken
    simp [scan, hMore, hToken]
  case h_11 cs =>
    rcases Option.map_eq_some_iff.mp h with
      ⟨⟨n, behind⟩, hScan, hToken⟩
    have hMore := Numeral.scan_append_of_some hRest hScan
    rcases Numeral.exists_cons_of_scan hScan with
      ⟨c, cs', rfl, hFirst⟩
    simp only [Prod.mk.injEq] at hToken
    rw [List.cons_append] at hMore ⊢
    rw [scan_of_first_numeral hFirst, hMore]
    simp [hToken]
  all_goals
    simp only [Option.some.injEq, Prod.mk.injEq] at h
    simp [scan, h]

/- Space ends at the first other character of a text. -/
theorem skipSpace_append_of_ne_nil
    {cs : List Char}
    (h : skipSpace cs ≠ [])
    (rest : List Char) :
    skipSpace (cs ++ rest) = skipSpace cs ++ rest := by
  unfold skipSpace at h ⊢
  rw [List.dropWhile_append, if_neg (by simpa using h)]

theorem skipSpace_append_of_nil
    {cs : List Char}
    (h : skipSpace cs = [])
    (rest : List Char) :
    skipSpace (cs ++ rest) = skipSpace rest := by
  unfold skipSpace at h ⊢
  rw [List.dropWhile_append, if_pos (by simp [h])]

/- The tokens of a text do not depend on space before it. -/
theorem ofChars?_congr
    {cs ds : List Char}
    (h : skipSpace cs = skipSpace ds) :
    ofChars? cs = ofChars? ds := by
  rw [ofChars?, ofChars?, h]

/-
  The tokens of a text stay the same if something follows
  the text that ends numerals.
-/
theorem ofChars?_append_of_some
    {cs rest : List Char}
    {ts : List Token}
    (hRest : Numeral.EndsBefore rest)
    (h : ofChars? cs = some ts) :
    ofChars? (cs ++ rest) =
      (ofChars? rest).map (fun us => ts ++ us) := by
  fun_induction ofChars? cs generalizing ts with
  | case1 cs hSpace =>
      cases h
      rw [ofChars?_congr (skipSpace_append_of_nil hSpace rest)]
      simp
  | case2 cs _ hNone =>
      cases h
  | case3 cs hSpace t tail hScan ih =>
      rcases Option.map_eq_some_iff.mp h with ⟨us, hTail, rfl⟩
      have hMore := scan_append_of_some hRest hScan
      have hSkip := skipSpace_append_of_ne_nil hSpace rest
      rw [ofChars?, hSkip, if_neg (by simp [hSpace])]
      split
      · next hNone =>
          rw [hMore] at hNone
          cases hNone
      · next hSome =>
          rw [hMore] at hSome
          cases hSome
          rw [ih hTail, Option.map_map]
          rfl

end Token

end Json

end GraphSchema

------------------------------------------------------------
-- Containers Around a Text
------------------------------------------------------------

namespace GraphSchema

namespace Json

namespace State

/-
  A state with further containers that are open around all
  that it has read.
-/
def onto (base : List Frame) : State → State
| .value stack => .value (stack ++ base)
| .firstItem stack => .firstItem (stack ++ base)
| .firstName stack => .firstName (stack ++ base)
| .nextName stack earlier => .nextName (stack ++ base) earlier
| .colon stack earlier name =>
    .colon (stack ++ base) earlier name
| .afterItem stack items => .afterItem (stack ++ base) items
| .afterMember stack members =>
    .afterMember (stack ++ base) members
| .finished j => deliver base j

/- A value is delivered to the innermost container. -/
theorem onto_deliver
    (stack base : List Frame)
    (j : Json) :
    (deliver stack j).onto base =
      deliver (stack ++ base) j := by
  cases stack with
  | nil =>
      rfl
  | cons frame stack =>
      cases frame <;> rfl

theorem beginValue_append
    (stack base : List Frame)
    (t : Token) :
    beginValue (stack ++ base) t =
      (beginValue stack t).map (onto base) := by
  cases t with
  | null | bool b | number n | string s | garbled =>
      exact congrArg some (onto_deliver stack base _).symm
  | _ =>
      rfl

theorem readName_append
    (stack base : List Frame)
    (earlier : List RawMember)
    (t : Token) :
    readName (stack ++ base) earlier t =
      (readName stack earlier t).map (onto base) := by
  cases t <;> rfl

/- What does not close an empty object names a member. -/
theorem step_firstName
    {t : Token}
    (ht : t ≠ .closeObject)
    (stack : List Frame) :
    (firstName stack).step t = readName stack [] t := by
  cases t with
  | closeObject => exact absurd rfl ht
  | _ => rfl

/- A token does the same inside of further containers. -/
theorem step_onto
    {state state' : State}
    {t : Token}
    (base : List Frame)
    (h : state.step t = some state') :
    (state.onto base).step t = some (state'.onto base) := by
  have hStep :
      (state.onto base).step t =
        (state.step t).map (onto base) := by
    cases state with
    | value stack =>
        exact beginValue_append stack base t
    | firstItem stack =>
        by_cases ht : t = .closeArray
        · subst ht
          exact congrArg some (onto_deliver stack base _).symm
        · rw [step_firstItem ht, ← beginValue_append]
          exact step_firstItem ht (stack ++ base)
    | firstName stack =>
        by_cases ht : t = .closeObject
        · subst ht
          exact congrArg some (onto_deliver stack base _).symm
        · rw [step_firstName ht, ← readName_append]
          exact step_firstName ht (stack ++ base)
    | nextName stack earlier =>
        exact readName_append stack base earlier t
    | colon stack earlier name =>
        cases t <;> rfl
    | afterItem stack items =>
        cases t with
        | closeArray =>
            exact congrArg some (onto_deliver stack base _).symm
        | _ =>
            rfl
    | afterMember stack members =>
        cases t with
        | closeObject =>
            exact congrArg some (onto_deliver stack base _).symm
        | _ =>
            rfl
    | finished j =>
        -- A complete document takes no further token.
        cases t <;> cases h
  rw [hStep, h]
  rfl

/- Tokens do the same inside of further containers. -/
theorem foldlM_step_onto
    {ts : List Token}
    {state state' : State}
    (base : List Frame)
    (h : ts.foldlM step state = some state') :
    ts.foldlM step (state.onto base) =
      some (state'.onto base) := by
  induction ts generalizing state with
  | nil =>
      cases h
      rfl
  | cons t ts ih =>
      rw [List.foldlM_cons] at h ⊢
      rcases Option.bind_eq_some_iff.mp h with
        ⟨next, hStep, hRest⟩
      rw [step_onto base hStep]
      exact ih hRest

end State

end Json

end GraphSchema

------------------------------------------------------------
-- Reading From a State
------------------------------------------------------------

namespace GraphSchema

namespace Json

/- A text is that of a document. -/
def Spells (s : String) (j : Json) : Prop :=
  ofText? s = some j

/- The state after the tokens of a text. -/
def advance?
    (state : State)
    (cs : List Char) : Option State := do
  let ts ← Token.ofChars? cs
  ts.foldlM State.step state

/- A document is what its text is finished with. -/
theorem spells_iff {s : String} {j : Json} :
    Spells s j ↔
      advance? (.value []) s.toList = some (.finished j) := by
  have hDocument :
      ∀ state : State,
        state.document? = some j ↔ state = .finished j := by
    intro state
    cases state <;> simp [State.document?]
  simp only [Spells, ofText?, ofTokens?, advance?,
    Token.ofText?, Option.bind_eq_bind,
    Option.bind_eq_some_iff, hDocument]
  constructor
  · rintro ⟨ts, hTokens, state, hState, rfl⟩
    exact ⟨ts, hTokens, hState⟩
  · rintro ⟨ts, hTokens, hState⟩
    exact ⟨ts, hTokens, _, hState, rfl⟩

/- The token at the front of a text is taken first. -/
theorem advance?_token
    (state : State)
    {t : Token}
    (ht : ¬ t.IsNumber)
    (rest : List Char) :
    advance? state (t.text.toList ++ rest) =
      (state.step t).bind (fun next => advance? next rest) := by
  unfold advance?
  rw [Token.ofChars?_append t (fun h => absurd h ht)]
  cases Token.ofChars? rest <;>
    simp

/- A text is read on from the state after its first part. -/
theorem advance?_append
    {state next : State}
    {cs rest : List Char}
    (hRest : Numeral.EndsBefore rest)
    (h : advance? state cs = some next) :
    advance? state (cs ++ rest) = advance? next rest := by
  rcases Option.bind_eq_some_iff.mp h with
    ⟨ts, hTokens, hState⟩
  unfold advance?
  rw [Token.ofChars?_append_of_some hRest hTokens]
  cases Token.ofChars? rest <;>
    simp [hState]

/-
  A text that is read as a value completes that value, in
  front of a text that ends numerals, whatever containers
  are open.
-/
theorem advance?_of_spells
    {s : String}
    {j : Json}
    (stack : List Frame)
    {rest : List Char}
    (h : Spells s j)
    (hRest : Numeral.EndsBefore rest) :
    advance? (.value stack) (s.toList ++ rest) =
      advance? (.deliver stack j) rest := by
  rcases Option.bind_eq_some_iff.mp (spells_iff.mp h) with
    ⟨ts, hTokens, hState⟩
  apply advance?_append hRest
  rw [advance?, hTokens]
  exact State.foldlM_step_onto stack hState

end Json

end GraphSchema

------------------------------------------------------------
-- Objects and Arrays of Texts
------------------------------------------------------------

namespace GraphSchema

namespace Json

/-
  The texts of a name and a content are those of a member:
  the one is a literal and the other one a document.
-/
structure SpellsMember
    (texts : String × String)
    (member : String × Json) : Prop where
  name : Token.ofText? texts.1 = some [.string member.1]
  content : Spells texts.2 member.2

theorem spells_text (j : Json) : Spells j.text j :=
  ofText?_text j

theorem spellsMember_text
    (name : String)
    (content : Json) :
    SpellsMember ((Token.string name).text, content.text)
      (name, content) where
  name := by
    have hToken :
        Token.ofChars? ((Token.string name).text.toList ++ []) =
          (Token.ofChars? []).map
            (fun ts => .string name :: ts) :=
      Token.ofChars?_append (.string name) nofun
    rw [List.append_nil] at hToken
    rw [Token.ofText?, hToken, Token.ofChars?]
    rfl
  content := spells_text content

/- The text of an array, by the texts of its items. -/
def arrayText (items : List String) : String :=
  "[" ++ String.intercalate "," items ++ "]"

/-
  The text of an object, by the texts of the names and
  contents of its members.
-/
def objectText (members : List (String × String)) : String :=
  "\x7b"
    ++ String.intercalate ","
        (members.map (fun m => m.1 ++ ":" ++ m.2))
    ++ "\x7d"

/- The characters of an array, item by item. -/
theorem toList_arrayText_cons
    (first : String)
    (more : List String) :
    (arrayText (first :: more)).toList =
      '[' :: (first.toList ++
        (more.flatMap (fun s => ',' :: s.toList) ++
          [']'])) := by
  simp only [arrayText, String.toList_append,
    Text.toList_intercalate_cons, List.append_assoc]
  simp

/- The characters of an object, member by member. -/
theorem toList_objectText_cons
    (first : String × String)
    (more : List (String × String)) :
    (objectText (first :: more)).toList =
      '\x7b' :: (first.1.toList ++ ':' :: (first.2.toList ++
        (more.flatMap (fun m =>
          ',' :: (m.1.toList ++ ':' :: m.2.toList)) ++
            ['\x7d']))) := by
  simp only [objectText, String.toList_append,
    List.map_cons, Text.toList_intercalate_cons,
    List.flatMap_map, List.append_assoc]
  simp

theorem advance?_nil (state : State) :
    advance? state [] = some state := by
  rw [advance?, Token.ofChars?]
  rfl

theorem endsBefore_cons
    {t : Token}
    (ht : ¬ t.IsNumber)
    {c : Char}
    (hText : t.text.toList = [c])
    (rest : List Char) : Numeral.EndsBefore (c :: rest) := by
  rcases t.exists_toList_text_eq_cons with
    ⟨d, cs, hCons, _, hEnds⟩
  rw [hText, List.cons.injEq] at hCons
  intro e he
  rw [List.head?_cons, Option.mem_some_iff] at he
  rw [← he, hCons.1]
  exact hEnds ht

/- A mark at the front of a text is taken first. -/
theorem advance?_mark
    {state next : State}
    {t : Token}
    (ht : ¬ t.IsNumber)
    {c : Char}
    (hText : t.text.toList = [c])
    (hStep : state.step t = some next)
    (rest : List Char) :
    advance? state (c :: rest) = advance? next rest := by
  have hToken := advance?_token state ht rest
  rw [hText, hStep] at hToken
  exact hToken

/- A numeral ends before what is listed behind commas. -/
theorem endsBefore_listed
    {A : Type}
    (listed : List A)
    (chars : A → List Char)
    {rest : List Char}
    (hRest : Numeral.EndsBefore rest) :
    Numeral.EndsBefore
      (listed.flatMap (fun a => ',' :: chars a) ++ rest) := by
  cases listed with
  | nil =>
      exact hRest
  | cons a listed =>
      exact endsBefore_cons (t := .comma) id rfl _

/- An item completes the first place of an array. -/
theorem advance?_firstItem
    {s : String}
    {j : Json}
    (stack : List Frame)
    {rest : List Char}
    (h : Spells s j)
    (hRest : Numeral.EndsBefore rest) :
    advance? (.firstItem stack) (s.toList ++ rest) =
      advance? (.afterItem stack [j]) rest := by
  rcases Option.bind_eq_some_iff.mp (spells_iff.mp h) with
    ⟨ts, hTokens, hState⟩
  apply advance?_append hRest
  rw [advance?, hTokens]
  cases ts with
  | nil =>
      cases hState
  | cons t ts =>
      have ht : t ≠ .closeArray := by
        rintro rfl
        cases hState
      exact (foldlM_step_firstItem ht stack ts).trans
        (State.foldlM_step_onto (.items [] :: stack) hState)

/- Further items are read up to the end of an array. -/
theorem advance?_moreItems
    {texts : List String}
    {items : List Json}
    (h : List.Forall₂ Spells texts items)
    (stack : List Frame)
    (earlier : List Json)
    (rest : List Char) :
    advance? (.afterItem stack earlier)
        (texts.flatMap (fun s => ',' :: s.toList) ++
          ']' :: rest) =
      advance?
        (.deliver stack (.array (earlier.reverse ++ items)))
        rest := by
  induction h generalizing earlier with
  | nil =>
      rw [List.append_nil]
      exact advance?_mark (t := .closeArray) id rfl rfl rest
  | @cons s j texts items hFirst _ ih =>
      have hEnds :
          Numeral.EndsBefore
            (texts.flatMap (fun s => ',' :: s.toList) ++
              ']' :: rest) :=
        endsBefore_listed texts String.toList
          (endsBefore_cons (t := .closeArray) id rfl rest)
      have hMore := ih (j :: earlier)
      rw [List.reverse_cons, List.append_assoc] at hMore
      rw [List.flatMap_cons, List.append_assoc,
        List.cons_append]
      exact (advance?_mark (t := .comma) id rfl rfl _).trans
        ((advance?_of_spells (.items earlier :: stack) hFirst
          hEnds).trans hMore)

/- An array is read from the texts of its items. -/
theorem spells_arrayText
    {texts : List String}
    {items : List Json}
    (h : List.Forall₂ Spells texts items) :
    Spells (arrayText texts) (.array items) := by
  rw [spells_iff]
  cases h with
  | nil =>
      exact (advance?_mark (t := .openArray) id rfl rfl _).trans
        ((advance?_mark (t := .closeArray) id rfl rfl _).trans
          (advance?_nil _))
  | @cons s j texts items hFirst hMore =>
      have hEnds :
          Numeral.EndsBefore
            (texts.flatMap (fun s => ',' :: s.toList) ++
              [']']) :=
        endsBefore_listed texts String.toList
          (endsBefore_cons (t := .closeArray) id rfl [])
      rw [toList_arrayText_cons]
      exact (advance?_mark (t := .openArray) id rfl rfl _).trans
        ((advance?_firstItem [] hFirst hEnds).trans
          ((advance?_moreItems hMore [] [j] []).trans
            (advance?_nil _)))

/-
  A member is read where a name may stand, in front of a
  text that ends numerals.
-/
theorem advance?_member
    {texts : String × String}
    {member : String × Json}
    {state : State}
    {stack : List Frame}
    {earlier : List RawMember}
    {rest : List Char}
    (h : SpellsMember texts member)
    (hName :
      state.step (.string member.1) =
        some (.colon stack earlier (some member.1)))
    (hRest : Numeral.EndsBefore rest) :
    advance? state
        (texts.1.toList ++ ':' :: (texts.2.toList ++ rest)) =
      advance?
        (.afterMember stack (rawMember member :: earlier))
        rest := by
  have hState :
      advance? state texts.1.toList =
        some (.colon stack earlier (some member.1)) := by
    have hTokens := h.name
    rw [Token.ofText?] at hTokens
    simp [advance?, hTokens, hName]
  have hColon :
      Numeral.EndsBefore
        (':' :: (texts.2.toList ++ rest)) :=
    endsBefore_cons (t := .colon) id rfl _
  rw [advance?_append hColon hState]
  exact (advance?_mark (t := .colon) id rfl rfl _).trans
    (advance?_of_spells
      (.members earlier (some member.1) :: stack)
      h.content hRest)

/- Further members are read up to the end of an object. -/
theorem advance?_moreMembers
    {texts : List (String × String)}
    {members : List (String × Json)}
    (h : List.Forall₂ SpellsMember texts members)
    (stack : List Frame)
    (earlier : List (String × Json))
    (rest : List Char) :
    advance?
        (.afterMember stack (earlier.map rawMember).reverse)
        (texts.flatMap (fun m =>
            ',' :: (m.1.toList ++ ':' :: m.2.toList)) ++
          '\x7d' :: rest) =
      advance?
        (.deliver stack (.object (earlier ++ members)))
        rest := by
  induction h generalizing earlier with
  | nil =>
      rw [List.append_nil, ← ofRawMembers_reverse]
      exact advance?_mark (t := .closeObject) id rfl rfl rest
  | @cons m member texts members hFirst _ ih =>
      have hEnds :
          Numeral.EndsBefore
            (texts.flatMap (fun m =>
                ',' :: (m.1.toList ++ ':' :: m.2.toList)) ++
              '\x7d' :: rest) :=
        endsBefore_listed texts _
          (endsBefore_cons (t := .closeObject) id rfl rest)
      have hMore := ih (earlier ++ [member])
      rw [List.map_append, List.reverse_append,
        List.append_assoc] at hMore
      simp only [List.flatMap_cons, List.append_assoc,
        List.cons_append]
      exact (advance?_mark (t := .comma) id rfl rfl _).trans
        ((advance?_member hFirst rfl hEnds).trans hMore)

/- An object is read from the texts of its members. -/
theorem spells_objectText
    {texts : List (String × String)}
    {members : List (String × Json)}
    (h : List.Forall₂ SpellsMember texts members) :
    Spells (objectText texts) (.object members) := by
  rw [spells_iff]
  cases h with
  | nil =>
      exact
        (advance?_mark (t := .openObject) id rfl rfl _).trans
          ((advance?_mark
              (t := .closeObject) id rfl rfl _).trans
            (advance?_nil _))
  | @cons m member texts members hFirst hMore =>
      have hEnds :
          Numeral.EndsBefore
            (texts.flatMap (fun m =>
                ',' :: (m.1.toList ++ ':' :: m.2.toList)) ++
              ['\x7d']) :=
        endsBefore_listed texts _
          (endsBefore_cons (t := .closeObject) id rfl [])
      rw [toList_objectText_cons]
      exact
        (advance?_mark (t := .openObject) id rfl rfl _).trans
          ((advance?_member hFirst rfl hEnds).trans
            ((advance?_moreMembers hMore [] [member] []).trans
              (advance?_nil _)))

end Json

end GraphSchema
