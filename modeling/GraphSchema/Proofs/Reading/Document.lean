import GraphSchema.Json.Reading
import GraphSchema.Proofs.Reading.Numeral
import Mathlib.Data.List.Chain

/-
  This file shows that every document is read back from its
  text: its literals with their escapes, its tokens, and the
  tree that they form.  So different documents have
  different texts.

  Key definitions include:
    * `Json.Token.Apart`

  Key theorems include:
    * `Json.Literal.scan_escape`
    * `Json.Token.ofChars?_tokens`
    * `Json.ofText?_text`
    * `Json.text_eq_iff`
-/

------------------------------------------------------------
-- Literals
------------------------------------------------------------

namespace GraphSchema

namespace Json.Literal

/- A hexadecimal digit has the value it was written for. -/
theorem hexValue?_hexChar (n : Nat) :
    hexValue? (hexChar n) = some (n % 16) := by
  have hDigits :
      ∀ d < 16,
        hexValue? ("0123456789abcdef".toList.getD d '0') =
          some d := by
    decide
  exact hDigits (n % 16) (Nat.mod_lt n (by decide))

/- A control character is the character of its unit. -/
theorem pieceOfUnit_toNat
    {c : Char}
    (hc : c.toNat < 0x20) :
    pieceOfUnit c.toNat = .char c := by
  have hSurrogate :
      ¬ (0xD800 ≤ c.toNat ∧ c.toNat < 0xE000) := by
    omega
  rw [pieceOfUnit, if_neg hSurrogate, Char.ofNat_toNat]

/- A control character is read back from its unit. -/
theorem scan_unit
    {c : Char}
    (hc : c.toNat < 0x20)
    (rest : List Char) :
    scan
        ('\\' :: 'u' :: '0' :: '0' ::
          hexChar (c.toNat / 16) :: hexChar c.toNat ::
            rest) =
      (scan rest).map
        (fun (pieces, rest) => (.char c :: pieces, rest)) := by
  have hZero : hexValue? '0' = some 0 := by
    decide
  have hUnit :
      ((0 * 16 + 0) * 16 + c.toNat / 16 % 16) * 16 +
          c.toNat % 16 =
        c.toNat := by
    omega
  rw [scan, hZero, hexValue?_hexChar, hexValue?_hexChar]
  simp only [Option.bind_eq_bind, Option.bind_some, hUnit,
    pieceOfUnit_toNat hc]
  cases scan rest <;> rfl

/- A character is read back from the letter it stands for. -/
theorem scan_letter
    {letter c : Char}
    (hLetter : escapedChar? letter = some c)
    (hUnit : letter ≠ 'u')
    (rest : List Char) :
    scan ('\\' :: letter :: rest) =
      (scan rest).map
        (fun (pieces, rest) => (.char c :: pieces, rest)) := by
  rw [scan]
  · rw [hLetter]
    cases scan rest <;> rfl
  · intro _ _ _ _ _ hEq
    exact absurd hEq hUnit

/- A character that needs no escape is read as it is. -/
theorem scan_plain
    {c : Char}
    (hQuote : c ≠ '"')
    (hSlash : c ≠ '\\')
    (hControl : ¬ c.toNat < 0x20)
    (rest : List Char) :
    scan (c :: rest) =
      (scan rest).map
        (fun (pieces, rest) => (.char c :: pieces, rest)) := by
  rw [scan]
  · rw [if_neg (not_or.mpr ⟨hSlash, hControl⟩)]
    cases scan rest <;> rfl
  · exact hQuote
  · intro _ _ _ _ _ hEq
    exact absurd hEq hSlash
  · intro _ _ hEq
    exact absurd hEq hSlash

/-
  A character is escaped by a letter, or as a unit if it is
  another control character, or not at all.
-/
theorem escapeChar_cases (c : Char) :
    (∃ letter,
      escapeChar c = ['\\', letter] ∧
        escapedChar? letter = some c ∧ letter ≠ 'u') ∨
    (escapeChar c =
        ['\\', 'u', '0', '0',
          hexChar (c.toNat / 16), hexChar c.toNat] ∧
      c.toNat < 0x20) ∨
    (escapeChar c = [c] ∧
      c ≠ '"' ∧ c ≠ '\\' ∧ ¬ c.toNat < 0x20) := by
  by_cases hLetter :
      c = '"' ∨ c = '\\' ∨ c = '\x08' ∨ c = '\t' ∨
        c = '\n' ∨ c = '\x0c' ∨ c = '\r'
  · left
    rcases hLetter with
      rfl | rfl | rfl | rfl | rfl | rfl | rfl
    all_goals
      exact ⟨_, rfl, by decide, by decide⟩
  · right
    simp only [not_or] at hLetter
    by_cases hControl : c.toNat < 0x20
    · left
      simp [escapeChar, hLetter, hControl]
    · right
      simp [escapeChar, hLetter, hControl]

/- A written character is read back. -/
theorem scan_escapeChar
    (c : Char)
    (rest : List Char) :
    scan (escapeChar c ++ rest) =
      (scan rest).map
        (fun (pieces, rest) => (.char c :: pieces, rest)) := by
  rcases escapeChar_cases c with
    ⟨letter, hEscape, hLetter, hUnit⟩ |
      ⟨hEscape, hControl⟩ |
      ⟨hEscape, hQuote, hSlash, hControl⟩
  · rw [hEscape]
    exact scan_letter hLetter hUnit rest
  · rw [hEscape]
    exact scan_unit hControl rest
  · rw [hEscape]
    exact scan_plain hQuote hSlash hControl rest

/- A written text is read back, and nothing behind it. -/
theorem scan_escape
    (cs rest : List Char) :
    scan (escape cs ++ '"' :: rest) =
      some (cs.map .char, rest) := by
  induction cs with
  | nil =>
      simp [escape, scan]
  | cons c cs ih =>
      have hRest :
          scan (cs.flatMap escapeChar ++ '"' :: rest) =
            some (cs.map .char, rest) :=
        ih
      rw [escape, List.flatMap_cons, List.append_assoc,
        scan_escapeChar, hRest]
      rfl

theorem assemble_map_char (cs : List Char) :
    assemble (cs.map .char) = some cs := by
  induction cs with
  | nil =>
      rfl
  | cons c cs ih =>
      rw [List.map_cons, assemble, ih]
      rfl

end Json.Literal

end GraphSchema

------------------------------------------------------------
-- Tokens
------------------------------------------------------------

namespace GraphSchema

namespace Json.Token

/- A token is a numeral. -/
def IsNumber : Token → Prop
| .number _ => True
| _ => False

/- No other token, nor space, starts as a numeral does. -/
private theorem first_numeral_ne
    {c : Char}
    (h : c = '-' ∨ ∃ d : Digit, c = d.char) :
    (c ≠ '\x7b' ∧ c ≠ '\x7d' ∧ c ≠ '[' ∧ c ≠ ']' ∧
      c ≠ ',' ∧ c ≠ ':' ∧ c ≠ 'n' ∧ c ≠ 't' ∧ c ≠ 'f' ∧
      c ≠ '"') ∧ ¬ IsSpace c := by
  rcases h with rfl | ⟨d, rfl⟩
  · decide
  · revert d
    decide

/- A text that starts as a numeral does is read as one. -/
theorem scan_of_first_numeral
    {c : Char}
    (h : c = '-' ∨ ∃ d : Digit, c = d.char)
    (cs : List Char) :
    scan (c :: cs) =
      (Numeral.scan (c :: cs)).map
        (fun (n, rest) => (.number n, rest)) := by
  rcases first_numeral_ne h with ⟨hOther, _⟩
  unfold scan
  split
  case h_11 =>
    rfl
  all_goals
    next hEq =>
      simp_all

/- A numeral is read as the token that it was written for. -/
theorem scan_number
    (n : Numeral)
    {rest : List Char}
    (hRest : Numeral.EndsBefore rest) :
    scan ((n.text true).toList ++ rest) =
      some (.number n, rest) := by
  have hScan := n.scan_text true hRest
  rcases n.exists_toList_text_eq_cons true with
    ⟨c, cs, hText, hFirst⟩
  rw [hText, List.cons_append] at hScan ⊢
  rw [scan_of_first_numeral hFirst, hScan]
  rfl

/- A literal is read as the token that it was written for. -/
theorem scan_string
    (s : String)
    (rest : List Char) :
    scan ((Token.string s).text.toList ++ rest) =
      some (.string s, rest) := by
  have hScan := Literal.scan_escape s.toList rest
  simp [text, scan, hScan, ofPieces,
    Literal.assemble_map_char]

/-
  A token is read back, and nothing behind it, if it is not
  a numeral that goes on.
-/
theorem scan_text
    (t : Token)
    {rest : List Char}
    (hRest : t.IsNumber → Numeral.EndsBefore rest) :
    scan (t.text.toList ++ rest) = some (t, rest) := by
  cases t with
  | number n =>
      exact scan_number n (hRest trivial)
  | string s =>
      exact scan_string s rest
  | bool b =>
      cases b <;> simp [text, scan]
  | garbled =>
      rfl
  | _ =>
      simp [text, scan]

/-
  A token starts with a character that is not space, and
  that ends a numeral unless the token is one itself.
-/
theorem exists_toList_text_eq_cons (t : Token) :
    ∃ c cs,
      t.text.toList = c :: cs ∧
        ¬ IsSpace c ∧
        (¬ t.IsNumber →
          Digit.ofChar? c = none ∧
            c ≠ '.' ∧ c ≠ 'e' ∧ c ≠ 'E') := by
  cases t with
  | number n =>
      rcases n.exists_toList_text_eq_cons true with
        ⟨c, cs, hText, hFirst⟩
      exact ⟨c, cs, hText, (first_numeral_ne hFirst).2,
        fun hOther => absurd trivial hOther⟩
  | string s =>
      refine ⟨'"', Literal.escape s.toList ++ ['"'], ?_,
        by decide, fun _ => by decide⟩
      simp [text]
  | bool b =>
      cases b <;>
        exact ⟨_, _, rfl, by decide, fun _ => by decide⟩
  | _ =>
      exact ⟨_, _, rfl, by decide, fun _ => by decide⟩

/- No two numerals are neighbours. -/
def Apart (ts : List Token) : Prop :=
  ts.IsChain (fun t u => ¬ (t.IsNumber ∧ u.IsNumber))

/- A token in front of a text is read first. -/
theorem ofChars?_append
    (t : Token)
    {rest : List Char}
    (hRest : t.IsNumber → Numeral.EndsBefore rest) :
    ofChars? (t.text.toList ++ rest) =
      (ofChars? rest).map (fun ts => t :: ts) := by
  have hScan := scan_text t hRest
  rcases t.exists_toList_text_eq_cons with
    ⟨c, cs, hText, hSpace, _⟩
  have hSkip :
      skipSpace (t.text.toList ++ rest) =
        t.text.toList ++ rest := by
    rw [hText, List.cons_append, skipSpace,
      List.dropWhile_cons_of_neg (by simpa using hSpace)]
  have hNonempty : t.text.toList ++ rest ≠ [] := by
    simp [hText]
  rw [ofChars?, hSkip, if_neg hNonempty]
  split
  · next hNone =>
      rw [hScan] at hNone
      cases hNone
  · next hSome =>
      rw [hScan] at hSome
      cases hSome
      rfl

/- Tokens are read back if no two numerals are neighbours. -/
theorem ofChars?_tokens
    {ts : List Token}
    (hApart : Apart ts) :
    ofChars? (ts.flatMap (fun t => t.text.toList)) =
      some ts := by
  induction ts with
  | nil =>
      rw [List.flatMap_nil, ofChars?]
      rfl
  | cons t ts ih =>
      have hTail : Apart ts := hApart.tail
      have hRest :
          t.IsNumber →
            Numeral.EndsBefore
              (ts.flatMap (fun t => t.text.toList)) := by
        intro hNumber c hc
        cases ts with
        | nil =>
            cases hc
        | cons u us =>
            have hOther : ¬ u.IsNumber := by
              intro hBoth
              exact hApart.rel ⟨hNumber, hBoth⟩
            rcases u.exists_toList_text_eq_cons with
              ⟨d, cs, hText, _, hEnds⟩
            rw [List.flatMap_cons, hText, List.cons_append,
              List.head?_cons, Option.mem_some_iff] at hc
            rw [← hc]
            exact hEnds hOther
      rw [List.flatMap_cons, ofChars?_append t hRest,
        ih hTail]
      rfl

end Json.Token

end GraphSchema

------------------------------------------------------------
-- Tokens of Documents
------------------------------------------------------------

namespace GraphSchema

namespace Json

/-
  Tokens that may stand behind any token: no two numerals
  are neighbours, and the first token is no numeral.
-/
structure Token.FollowAny (ts : List Token) : Prop where
  apart : Apart ts
  first : ∀ t ∈ ts.head?, ¬ t.IsNumber

namespace Token.FollowAny

theorem nil : FollowAny [] where
  apart := .nil
  first := by
    intro t ht
    cases ht

theorem cons
    {t : Token}
    {ts : List Token}
    (ht : ¬ t.IsNumber)
    (hts : Apart ts) : FollowAny (t :: ts) where
  apart := by
    apply List.IsChain.cons hts
    intro u _ hBoth
    exact ht hBoth.1
  first := by
    intro u hu
    rw [List.head?_cons, Option.mem_some_iff] at hu
    rw [← hu]
    exact ht

theorem apart_cons
    {ts : List Token}
    (hts : FollowAny ts)
    (t : Token) : Apart (t :: ts) := by
  apply List.IsChain.cons hts.apart
  intro u hu hBoth
  exact hts.first u hu hBoth.2

end Token.FollowAny

mutual

/- No two numerals of a document are neighbours. -/
theorem apart_tokens
    (j : Json)
    {ts : List Token}
    (hts : Token.FollowAny ts) :
    Token.Apart (j.tokens ++ ts) := by
  match j with
  | .null | .bool _ | .number _ | .string _ | .garbled =>
      exact hts.apart_cons _
  | .array items =>
      have hItems :=
        apart_itemTokens items
          (.cons (t := .closeArray) id hts.apart)
      simp only [tokens, List.append_assoc]
      exact (Token.FollowAny.cons id hItems).apart
  | .object members =>
      have hMembers :=
        apart_memberTokens members
          (.cons (t := .closeObject) id hts.apart)
      simp only [tokens, List.append_assoc]
      exact (Token.FollowAny.cons id hMembers).apart

theorem apart_itemTokens
    (items : List Json)
    {ts : List Token}
    (hts : Token.FollowAny ts) :
    Token.Apart (itemTokens items ++ ts) := by
  match items with
  | [] =>
      exact hts.apart
  | item :: items =>
      rw [itemTokens, List.append_assoc]
      exact apart_tokens item
        (followAny_moreItemTokens items hts)

theorem followAny_moreItemTokens
    (items : List Json)
    {ts : List Token}
    (hts : Token.FollowAny ts) :
    Token.FollowAny (moreItemTokens items ++ ts) := by
  match items with
  | [] =>
      exact hts
  | item :: items =>
      rw [moreItemTokens, List.cons_append,
        List.append_assoc]
      exact .cons id (apart_tokens item
        (followAny_moreItemTokens items hts))

theorem apart_memberTokens
    (members : List (String × Json))
    {ts : List Token}
    (hts : Token.FollowAny ts) :
    Token.Apart (memberTokens members ++ ts) := by
  match members with
  | [] =>
      exact hts.apart
  | (name, content) :: members =>
      have hContent :=
        apart_tokens content
          (followAny_moreMemberTokens members hts)
      simp only [memberTokens, List.cons_append,
        List.append_assoc]
      exact (Token.FollowAny.cons id
        (Token.FollowAny.cons id hContent).apart).apart

theorem followAny_moreMemberTokens
    (members : List (String × Json))
    {ts : List Token}
    (hts : Token.FollowAny ts) :
    Token.FollowAny (moreMemberTokens members ++ ts) := by
  match members with
  | [] =>
      exact hts
  | (name, content) :: members =>
      have hContent :=
        apart_tokens content
          (followAny_moreMemberTokens members hts)
      simp only [moreMemberTokens, List.cons_append,
        List.append_assoc]
      exact .cons id (Token.FollowAny.cons id
        (Token.FollowAny.cons id hContent).apart).apart

end

end Json

end GraphSchema

------------------------------------------------------------
-- Trees
------------------------------------------------------------

namespace GraphSchema

namespace Json

/- A member whose name is not garbled. -/
def rawMember (member : String × Json) : RawMember :=
  (some member.1, member.2)

/- Members whose names are not garbled make up an object. -/
theorem ofRawMembers_reverse
    (members : List (String × Json)) :
    ofRawMembers (members.map rawMember).reverse =
      .object members := by
  have hNamed : members.mapM some = some members := by
    induction members with
    | nil =>
        rfl
    | cons member members ih =>
        rw [List.mapM_cons, ih]
        rfl
  simp only [ofRawMembers, List.reverse_reverse,
    List.mapM_map, rawMember, Function.comp_def,
    Option.map_some, hNamed]

/- The first token of a document does not close an array. -/
theorem exists_tokens_eq_cons (j : Json) :
    ∃ t ts, j.tokens = t :: ts ∧ t ≠ .closeArray := by
  cases j <;>
    simp [tokens]

/- What does not close an empty array begins an item. -/
theorem State.step_firstItem
    {t : Token}
    (ht : t ≠ .closeArray)
    (stack : List Frame) :
    (State.firstItem stack).step t =
      State.beginValue (.items [] :: stack) t := by
  cases t with
  | closeArray => exact absurd rfl ht
  | _ => rfl

/- A first item is read as a value. -/
theorem foldlM_step_firstItem
    {t : Token}
    (ht : t ≠ .closeArray)
    (stack : List Frame)
    (ts : List Token) :
    (t :: ts).foldlM State.step (.firstItem stack) =
      (t :: ts).foldlM State.step
        (.value (.items [] :: stack)) := by
  rw [List.foldlM_cons, State.step_firstItem ht]
  rfl

mutual

/-
  The tokens of a document take the reader from a state
  where it expects a value to the state where that value is
  complete, whatever containers are still open.
-/
theorem foldlM_step_tokens
    (j : Json)
    (stack : List Frame)
    (ts : List Token) :
    (j.tokens ++ ts).foldlM State.step (.value stack) =
      ts.foldlM State.step (State.deliver stack j) := by
  match j with
  | .null | .bool _ | .number _ | .string _ | .garbled =>
      rfl
  | .array items =>
      simp only [tokens, List.append_assoc]
      exact foldlM_step_itemTokens items stack ts
  | .object members =>
      simp only [tokens, List.append_assoc]
      exact foldlM_step_memberTokens members stack ts

theorem foldlM_step_itemTokens
    (items : List Json)
    (stack : List Frame)
    (ts : List Token) :
    (itemTokens items ++ .closeArray :: ts).foldlM State.step
        (.firstItem stack) =
      ts.foldlM State.step
        (State.deliver stack (.array items)) := by
  match items with
  | [] =>
      rfl
  | item :: items =>
      have hItem :=
        foldlM_step_tokens item (.items [] :: stack)
          (moreItemTokens items ++ .closeArray :: ts)
      have hMore :=
        foldlM_step_moreItemTokens items [item] stack ts
      rcases item.exists_tokens_eq_cons with
        ⟨t, rest, hTokens, ht⟩
      rw [itemTokens, List.append_assoc]
      rw [hTokens, List.cons_append] at hItem ⊢
      rw [foldlM_step_firstItem ht, hItem]
      exact hMore

theorem foldlM_step_moreItemTokens
    (items earlier : List Json)
    (stack : List Frame)
    (ts : List Token) :
    (moreItemTokens items ++ .closeArray :: ts).foldlM
        State.step (.afterItem stack earlier) =
      ts.foldlM State.step
        (State.deliver stack
          (.array (earlier.reverse ++ items))) := by
  match items with
  | [] =>
      rw [List.append_nil]
      rfl
  | item :: items =>
      have hItem :=
        foldlM_step_tokens item (.items earlier :: stack)
          (moreItemTokens items ++ .closeArray :: ts)
      have hMore :=
        foldlM_step_moreItemTokens items (item :: earlier)
          stack ts
      rw [List.reverse_cons, List.append_assoc] at hMore
      rw [moreItemTokens, List.cons_append,
        List.append_assoc]
      exact hItem.trans hMore

theorem foldlM_step_memberTokens
    (members : List (String × Json))
    (stack : List Frame)
    (ts : List Token) :
    (memberTokens members ++ .closeObject :: ts).foldlM
        State.step (.firstName stack) =
      ts.foldlM State.step
        (State.deliver stack (.object members)) := by
  match members with
  | [] =>
      rfl
  | (name, content) :: members =>
      have hContent :=
        foldlM_step_tokens content
          (.members [] (some name) :: stack)
          (moreMemberTokens members ++ .closeObject :: ts)
      have hMore :=
        foldlM_step_moreMemberTokens members
          [(name, content)] stack ts
      simp only [memberTokens, List.cons_append,
        List.append_assoc]
      exact hContent.trans hMore

/- The members read so far are listed newest first. -/
theorem foldlM_step_moreMemberTokens
    (members earlier : List (String × Json))
    (stack : List Frame)
    (ts : List Token) :
    (moreMemberTokens members ++ .closeObject :: ts).foldlM
        State.step
        (.afterMember stack
          (earlier.map rawMember).reverse) =
      ts.foldlM State.step
        (State.deliver stack
          (.object (earlier ++ members))) := by
  match members with
  | [] =>
      rw [List.append_nil, ← ofRawMembers_reverse]
      rfl
  | (name, content) :: members =>
      have hContent :=
        foldlM_step_tokens content
          (.members (earlier.map rawMember).reverse
            (some name) :: stack)
          (moreMemberTokens members ++ .closeObject :: ts)
      have hMore :=
        foldlM_step_moreMemberTokens members
          (earlier ++ [(name, content)]) stack ts
      rw [List.map_append, List.reverse_append,
        List.append_assoc] at hMore
      simp only [moreMemberTokens, List.cons_append,
        List.append_assoc]
      exact hContent.trans hMore

end

/- A document is read back from its tokens. -/
theorem ofTokens?_tokens (j : Json) :
    ofTokens? j.tokens = some j := by
  have hRead := foldlM_step_tokens j [] []
  rw [List.append_nil] at hRead
  rw [ofTokens?, hRead]
  rfl

/- A document is read back from its text. -/
theorem ofText?_text (j : Json) :
    ofText? j.text = some j := by
  have hApart : Token.Apart j.tokens := by
    simpa using apart_tokens j .nil
  have hChars :
      j.text.toList =
        j.tokens.flatMap (fun t => t.text.toList) := by
    rw [text, String.toList_join, List.flatMap_map]
  rw [ofText?, Token.ofText?, hChars,
    Token.ofChars?_tokens hApart]
  exact ofTokens?_tokens j

/-
  Values that are read back from what is written for them
  are the same if the same is written for them.
-/
theorem eq_of_write_eq
    {A B : Type}
    {write : A → B}
    {read : B → Option A}
    {a b : A}
    (ha : read (write a) = some a)
    (hb : read (write b) = some b)
    (h : write a = write b) : a = b := by
  rw [h, hb] at ha
  exact (Option.some.inj ha).symm

/- Documents have one text only if they are the same. -/
theorem text_eq_iff {j k : Json} :
    j.text = k.text ↔ j = k := by
  constructor
  · exact eq_of_write_eq (ofText?_text j) (ofText?_text k)
  · exact congrArg text

end Json

end GraphSchema
