import GraphSchema.Proofs.History
import GraphSchema.Proofs.Listing
import GraphSchema.Proofs.WellFormed
import GraphSchema.Statement.Pieces
import GraphSchema.Text.Joined
import Mathlib.Data.List.TakeWhile

/-
  This file shows what the text of a statement tells about
  its properties.  The keywords of the pieces that commas
  separate are read off the text.  Nothing tells whether a
  piece belongs to the statement or to one that is shown in
  full inside it.

  Key definitions include:
    * `Text.EndsPiece`
    * `Text.leadingWords`

  Key theorems include:
    * `Statement.isBrief_iff`
    * `Statement.leadingWords_text`
    * `Statement.keywords_of_text`
    * `Statement.owners_of_pieces_are_lost`
-/

------------------------------------------------------------
-- Reading Pieces
------------------------------------------------------------

namespace GraphSchema

namespace Text

/- A character that a keyword ends before. -/
def isDelimiter (c : Char) : Bool :=
  c == ' ' || c == ',' || c == ';'

/- A text that a keyword can end before. -/
def EndsPiece (rest : List Char) : Prop :=
  ∀ c ∈ rest.head?, isDelimiter c = true

theorem endsPiece_cons
    {c : Char}
    (h : isDelimiter c = true)
    (rest : List Char) : EndsPiece (c :: rest) := by
  intro d hd
  cases hd
  exact h

/- The word at the front of a text. -/
def firstWord (cs : List Char) : List Char :=
  cs.takeWhile (fun c => !isDelimiter c)

/- The words behind the commas and the blanks after them. -/
def wordsBehindCommas : List Char → List (List Char)
| [] => []
| c :: cs =>
    if c = ',' then
      firstWord cs.tail :: wordsBehindCommas cs
    else
      wordsBehindCommas cs

/-
  The words that the pieces of a text start with.  A text
  that starts with a variable has its pieces behind the
  first blank, if it has any.
-/
def leadingWords (cs : List Char) : List (List Char) :=
  if cs.head? = some '$' then
    match cs.dropWhile (fun c => c != ' ') with
    | [] => []
    | _ :: pieces =>
        firstWord pieces :: wordsBehindCommas pieces
  else
    firstWord cs :: wordsBehindCommas cs

/- A word is read up to a delimiter. -/
theorem firstWord_append
    {word rest : List Char}
    (hWord : ∀ c ∈ word, isDelimiter c = false)
    (hRest : EndsPiece rest) :
    firstWord (word ++ rest) = word := by
  rw [firstWord, List.takeWhile_append_of_pos (by simpa)]
  cases rest with
  | nil =>
      simp
  | cons c rest =>
      have hDelimiter : isDelimiter c = true := hRest c rfl
      simp [hDelimiter]

/- Nothing is read from a text without commas. -/
theorem wordsBehindCommas_append
    {cs : List Char}
    (h : ',' ∉ cs)
    (rest : List Char) :
    wordsBehindCommas (cs ++ rest) =
      wordsBehindCommas rest := by
  induction cs with
  | nil =>
      rfl
  | cons c cs ih =>
      rw [List.mem_cons, not_or] at h
      rw [List.cons_append, wordsBehindCommas,
        if_neg (Ne.symm h.1), ih h.2]

/- A comma and a blank are followed by a piece. -/
theorem wordsBehindCommas_comma (rest : List Char) :
    wordsBehindCommas (',' :: ' ' :: rest) =
      firstWord rest :: wordsBehindCommas rest := by
  simp [wordsBehindCommas]

/- A variable that is not followed by a blank has no pieces. -/
theorem leadingWords_of_no_blank
    {cs : List Char}
    (h : ' ' ∉ cs) :
    leadingWords ('$' :: cs) = [] := by
  have hDrop :
      ('$' :: cs).dropWhile (fun c => c != ' ') = [] := by
    apply List.dropWhile_eq_nil_iff.mpr
    intro c hc
    rcases List.mem_cons.mp hc with rfl | hc
    · rfl
    · rw [bne_iff_ne]
      rintro rfl
      exact h hc
  rw [leadingWords, List.head?_cons, if_pos rfl, hDrop]

/- The pieces behind a variable start after the blank. -/
theorem leadingWords_of_blank
    {name : List Char}
    (hName : ∀ c ∈ name, isDelimiter c = false)
    (pieces : List Char) :
    leadingWords ('$' :: (name ++ ' ' :: pieces)) =
      firstWord pieces :: wordsBehindCommas pieces := by
  have hNoBlank : ∀ c ∈ '$' :: name, (c != ' ') = true := by
    intro c hc
    rcases List.mem_cons.mp hc with rfl | hc
    · rfl
    · rw [bne_iff_ne]
      rintro rfl
      exact absurd (hName ' ' hc) (by decide)
  have hDrop :
      ('$' :: (name ++ ' ' :: pieces)).dropWhile
          (fun c => c != ' ') =
        ' ' :: pieces := by
    rw [← List.cons_append,
      List.dropWhile_append_of_pos hNoBlank]
    rfl
  rw [leadingWords, List.head?_cons, if_pos rfl, hDrop]

/- A text that does not start with a variable is pieces. -/
theorem leadingWords_of_head_ne
    {cs : List Char}
    (h : cs.head? ≠ some '$') :
    leadingWords cs =
      firstWord cs :: wordsBehindCommas cs := by
  rw [leadingWords, if_neg h]

theorem isDelimiter_of_isWordChar
    {c : Char}
    (h : isWordChar c = true) : isDelimiter c = false := by
  cases hDelimiter : isDelimiter c with
  | false =>
      rfl
  | true =>
      simp only [isDelimiter, Bool.or_eq_true, beq_iff_eq]
        at hDelimiter
      rcases hDelimiter with (rfl | rfl) | rfl <;>
        exact absurd h (by decide)

theorem IsWord.isDelimiter_eq_false
    {s : String}
    (h : IsWord s) :
    ∀ c ∈ s.toList, isDelimiter c = false := by
  intro c hc
  exact isDelimiter_of_isWordChar
    (List.all_eq_true.mp h.2 c hc)

theorem isDelimiter_eq_false_of_all
    {cs : List Char}
    (h : cs.all (fun c => !isDelimiter c) = true) :
    ∀ c ∈ cs, isDelimiter c = false := by
  intro c hc
  simpa using List.all_eq_true.mp h c hc

theorem comma_notMem
    {cs : List Char}
    (h : ∀ c ∈ cs, isDelimiter c = false) : ',' ∉ cs := by
  intro hComma
  exact absurd (h ',' hComma) (by decide)

end Text

theorem Keyword.isDelimiter_eq_false (k : Keyword) :
    ∀ c ∈ k.text.toList, Text.isDelimiter c = false := by
  apply Text.isDelimiter_eq_false_of_all
  cases k <;> rfl

theorem DataType.comma_notMem_text (d : DataType) :
    ',' ∉ d.text.toList := by
  cases d <;> decide

end GraphSchema

------------------------------------------------------------
-- Words at Every Depth
------------------------------------------------------------

namespace GraphSchema

namespace Statement

/-
  A statement has words at every depth if it has words and
  the statements nested in it have words at every depth.
-/
theorem isWorded_iff (s : Statement) :
    s.IsWorded ↔
      s.HasWords ∧ ∀ t ∈ s.nested, t.IsWorded := by
  unfold IsWorded
  rw [innerStatements_eq_cons]
  simp only [List.forall_mem_cons, List.mem_flatMap]
  apply and_congr_right
  intro _
  constructor
  · intro h t ht u hu
    exact h u ⟨t, ht, hu⟩
  · rintro h u ⟨t, ht, hu⟩
    exact h t ht u hu

instance (s : Statement) : Decidable s.IsWorded :=
  decidable_of_iff
    (s.listing.all (fun t => t.HasWords) = true) (by
      rw [IsWorded, innerStatements_eq_listing]
      simp)

theorem IsWorded.hasWords_of_mem
    {s : Statement}
    {p : Property}
    (h : s.IsWorded)
    (hp : p ∈ s.properties.toList) : p.HasWords := by
  have hWords := (s.isWorded_iff.mp h).1.2
  simpa using List.all_eq_true.mp hWords p hp

theorem IsWorded.of_mem_types
    {s t : Statement}
    {p : Property}
    (h : s.IsWorded)
    (hp : p ∈ s.properties.toList)
    (ht : t ∈ p.types) : t.IsWorded := by
  apply (s.isWorded_iff.mp h).2
  apply List.mem_flatMap.mpr
  refine ⟨p, hp, ?_⟩
  rw [Property.statements_eq_append]
  exact List.mem_append_left _ ht

theorem mem_of_label_eq_some
    {s : Statement}
    {label : String}
    (h : s.label = some label) :
    .type label ∈ s.properties.toList := by
  rcases List.exists_of_findSome?_eq_some h with
    ⟨p, hp, hLabel⟩
  rw [← labelOf?_eq_some_iff.mp hLabel]
  exact hp

end Statement

end GraphSchema

------------------------------------------------------------
-- Pieces of Properties
------------------------------------------------------------

namespace GraphSchema

open Text

namespace Property

/- The characters of a property, from its keyword on. -/
theorem exists_toList_text (p : Property) :
    ∃ gap,
      (gap = [] ∧ p.argumentText = "" ∨ gap = [' ']) ∧
        p.text.toList =
          p.keyword.text.toList ++
            (gap ++ p.argumentText.toList) := by
  by_cases hArgument : p.argumentText = ""
  · refine ⟨[], .inl ⟨rfl, hArgument⟩, ?_⟩
    simp [text, propertyText, hArgument]
  · refine ⟨[' '], .inr rfl, ?_⟩
    simp [text, propertyText, hArgument]

theorem firstWord_text
    (p : Property)
    {rest : List Char}
    (hRest : EndsPiece rest) :
    firstWord (p.text.toList ++ rest) =
      p.keyword.text.toList := by
  rcases p.exists_toList_text with ⟨gap, hGap, hText⟩
  rw [hText, List.append_assoc]
  apply firstWord_append p.keyword.isDelimiter_eq_false
  rcases hGap with ⟨rfl, hArgument⟩ | rfl
  · rw [hArgument]
    exact hRest
  · exact endsPiece_cons rfl _

theorem head?_text_append_ne
    {p : Property}
    {rest : List Char} :
    (p.text.toList ++ rest).head? ≠ some '$' := by
  rcases p.exists_toList_text with ⟨gap, _, hText⟩
  rw [hText]
  cases p.keyword <;> simp [Keyword.text]

/- The commas of a property are those of its argument. -/
theorem wordsBehindCommas_text
    (p : Property)
    (rest : List Char) :
    wordsBehindCommas (p.text.toList ++ rest) =
      wordsBehindCommas
        (p.argumentText.toList ++ rest) := by
  rcases p.exists_toList_text with ⟨gap, hGap, hText⟩
  have hComma : ',' ∉ gap := by
    rcases hGap with ⟨rfl, _⟩ | rfl <;> simp
  rw [hText, List.append_assoc,
    wordsBehindCommas_append
      (comma_notMem p.keyword.isDelimiter_eq_false),
    List.append_assoc, wordsBehindCommas_append hComma]

/- The characters of further properties, behind commas. -/
def moreChars (ps : List Property) : List Char :=
  ps.flatMap (fun p => ',' :: ' ' :: p.text.toList)

/- The texts of properties are joined by commas. -/
theorem toList_intercalate
    (p : Property)
    (ps : List Property) :
    (String.intercalate ", "
        ((p :: ps).map text)).toList =
      p.text.toList ++ moreChars ps := by
  rw [List.map_cons, toList_intercalate_cons,
    List.flatMap_map]
  rfl

theorem endsPiece_moreChars
    (ps : List Property)
    {rest : List Char}
    (hRest : EndsPiece rest) :
    EndsPiece (moreChars ps ++ rest) := by
  cases ps with
  | nil =>
      exact hRest
  | cons p ps =>
      exact endsPiece_cons rfl _

/-
  The commas of a property stand before its later pieces,
  whatever follows.
-/
def ReadsPieces (p : Property) : Prop :=
  ∀ rest, EndsPiece rest →
    wordsBehindCommas (p.text.toList ++ rest) =
      p.laterKeywords.map (fun k => k.text.toList) ++
        wordsBehindCommas rest

/- The pieces of further properties are read off. -/
theorem wordsBehindCommas_moreChars
    {ps : List Property}
    (hReads : ∀ p ∈ ps, p.ReadsPieces)
    {rest : List Char}
    (hRest : EndsPiece rest) :
    wordsBehindCommas (moreChars ps ++ rest) =
      (ps.flatMap pieceKeywords).map
          (fun k => k.text.toList) ++
        wordsBehindCommas rest := by
  induction ps with
  | nil =>
      rfl
  | cons p ps ih =>
      rcases List.forall_mem_cons.mp hReads with ⟨hp, hps⟩
      have hMore := endsPiece_moreChars ps hRest
      have hChars :
          moreChars (p :: ps) ++ rest =
            ',' :: ' ' ::
              (p.text.toList ++ (moreChars ps ++ rest)) := by
        simp [moreChars]
      rw [hChars, wordsBehindCommas_comma,
        p.firstWord_text hMore, hp _ hMore, ih hps]
      simp [pieceKeywords]

end Property

end GraphSchema

------------------------------------------------------------
-- Short Forms and Bodies
------------------------------------------------------------

namespace GraphSchema

open Text

namespace Statement

/- A statement that is not shown in full is shortened. -/
theorem printableName_of_isUserDefined
    {s : Statement}
    (h : s.var.IsUserDefined) :
    s.printableName = s.var.text := by
  rw [printableName, printableNameOf, if_pos h]

theorem printableName_of_label
    {s : Statement}
    {label : String}
    (hVar : ¬ s.var.IsUserDefined)
    (hCount : s.properties.count = 1)
    (hLabel : s.label = some label) :
    s.printableName = label := by
  simp [printableName, printableNameOf, hVar, hCount,
    hLabel]

theorem printableName_of_isShownInFull
    {s : Statement}
    (h : s.IsShownInFull) :
    s.printableName = s.body := by
  rw [printableName, printableNameOf, if_neg h.1]
  split
  · next label hCount hLabel =>
      exact absurd ⟨hCount, by simp [hLabel]⟩ h.2
  · rfl

theorem body_of_nil
    {s : Statement}
    (h : s.properties.toList = []) :
    s.body = s.var.text := by
  rw [body, propertyTexts_eq_map, h]
  rfl

/- A statement with properties shows them, joined. -/
theorem toList_body_of_cons
    {s : Statement}
    {p : Property}
    {ps : List Property}
    (h : s.properties.toList = p :: ps) :
    s.body.toList =
      (if s.var.IsUserDefined then
          s.var.text.toList ++ [' ']
        else []) ++
        (p.text.toList ++ Property.moreChars ps) := by
  have hChars := Property.toList_intercalate p ps
  have hNonempty :
      String.intercalate ", "
        ((p :: ps).map Property.text) ≠ "" := by
    intro hEmpty
    have hEnd : EndsPiece [] := by
      intro c hc
      cases hc
    have hWord :=
      p.firstWord_text
        (Property.endsPiece_moreChars ps hEnd)
    rw [List.append_nil, ← hChars, hEmpty] at hWord
    cases hKeyword : p.keyword <;>
      simp [hKeyword, Keyword.text, firstWord] at hWord
  rw [body, propertyTexts_eq_map, h, bodyOf]
  simp only [hNonempty, if_false]
  by_cases hUser : s.var.IsUserDefined
  · simp only [hUser, if_true, String.toList_append, hChars]
    simp
  · simp only [hUser, if_false, hChars, List.nil_append]

end Statement

end GraphSchema

------------------------------------------------------------
-- Pieces of Statements
------------------------------------------------------------

namespace GraphSchema

open Text

theorem Variable.isDelimiter_eq_false
    {v : Variable}
    (h : v.IsUserDefined → IsWord v.name) :
    ∀ c ∈ v.text.toList, isDelimiter c = false := by
  intro c hc
  rcases v with ⟨name, kind⟩
  cases kind with
  | userDefined =>
      simp only [text, String.toList_append, List.mem_append]
        at hc
      rcases hc with hDollar | hName
      · rw [List.mem_singleton.mp hDollar]
        rfl
      · exact (h rfl).isDelimiter_eq_false c hName
  | anonymous =>
      have hAll :
          "$_".toList.all (fun c => !isDelimiter c) = true :=
        rfl
      exact isDelimiter_eq_false_of_all hAll c hc

namespace Statement

/-
  The commas of the short form of a statement stand before
  its later pieces, whatever follows.
-/
def ReadsPieces (s : Statement) : Prop :=
  ∀ rest, EndsPiece rest →
    wordsBehindCommas (s.printableName.toList ++ rest) =
      s.laterKeywords.map (fun k => k.text.toList) ++
        wordsBehindCommas rest

/- A short form that is a word has no later pieces. -/
theorem readsPieces_of_not_isShownInFull
    {s : Statement}
    (hShort : ¬ s.IsShownInFull)
    (hWord :
      ∀ c ∈ s.printableName.toList,
        isDelimiter c = false) : s.ReadsPieces := by
  intro rest _
  rw [s.laterKeywords_eq, if_neg hShort,
    wordsBehindCommas_append (comma_notMem hWord)]
  rfl

/- A statement with words is shortened to a word. -/
theorem IsWorded.isDelimiter_eq_false
    {s : Statement}
    (h : s.IsWorded)
    (hShort : ¬ s.IsShownInFull) :
    ∀ c ∈ s.printableName.toList,
      isDelimiter c = false := by
  by_cases hUser : s.var.IsUserDefined
  · rw [printableName_of_isUserDefined hUser]
    exact Variable.isDelimiter_eq_false
      (s.isWorded_iff.mp h).1.1
  · have hLabelled :
        s.properties.count = 1 ∧ s.label.isSome = true :=
      not_not.mp (fun hNot => hShort ⟨hUser, hNot⟩)
    rcases Option.isSome_iff_exists.mp hLabelled.2 with
      ⟨label, hLabel⟩
    have hWord : IsWord label :=
      h.hasWords_of_mem (mem_of_label_eq_some hLabel)
    rw [printableName_of_label hUser hLabelled.1 hLabel]
    exact hWord.isDelimiter_eq_false

/- A body has the later pieces of its properties. -/
theorem readsPieces_of_isShownInFull
    {s : Statement}
    (hFull : s.IsShownInFull)
    (hReads : ∀ p ∈ s.properties.toList, p.ReadsPieces) :
    s.ReadsPieces := by
  intro rest hRest
  rw [s.laterKeywords_eq, if_pos hFull,
    printableName_of_isShownInFull hFull, pieceKeywords]
  cases hList : s.properties.toList with
  | nil =>
      have hWord :
          ∀ c ∈ s.var.text.toList, isDelimiter c = false :=
        Variable.isDelimiter_eq_false
          (fun hUser => absurd hUser hFull.1)
      rw [body_of_nil hList,
        wordsBehindCommas_append (comma_notMem hWord)]
      rfl
  | cons p ps =>
      rw [hList] at hReads
      rcases List.forall_mem_cons.mp hReads with ⟨hp, hps⟩
      rw [toList_body_of_cons hList, if_neg hFull.1,
        List.nil_append, List.append_assoc,
        hp _ (Property.endsPiece_moreChars ps hRest),
        Property.wordsBehindCommas_moreChars hps hRest]
      simp [Property.pieceKeywords]

end Statement

/-
  The pieces of properties and of short forms are read off,
  if they have words at every depth.
-/
private theorem hereditary_readsPieces :
    Hereditary
      (fun p =>
        p.HasWords → (∀ t ∈ p.types, t.IsWorded) →
          p.ReadsPieces)
      (fun s => s.IsWorded → s.ReadsPieces)
      (fun _ => True) where
  property := by
    intro p ih _ hWords hTypes rest hRest
    have hReads : ∀ t ∈ p.types, t.ReadsPieces :=
      fun t ht => ih t ht (hTypes t ht)
    rw [p.wordsBehindCommas_text]
    cases p with
    | type label =>
        have hLabel : IsWord label := hWords
        exact wordsBehindCommas_append
          (comma_notMem hLabel.isDelimiter_eq_false) rest
    | abstract =>
        rfl
    | sub s _ | has s _ _ | plays s _ =>
        exact hReads s (List.mem_singleton_self s) rest hRest
    | relates s superRole =>
        cases superRole with
        | none =>
            exact hReads s (List.mem_singleton_self s) rest
              hRest
        | some t =>
            have hs : s.ReadsPieces :=
              hReads s (by simp [Property.types])
            have ht : t.ReadsPieces :=
              hReads t (by simp [Property.types])
            have hChars :
                (Property.relates s
                    (some t)).argumentText.toList ++ rest =
                  s.printableName.toList ++
                    ([' ', 'a', 's', ' '] ++
                      (t.printableName.toList ++ rest)) := by
              have hText :
                  (Property.relates s (some t)).argumentText =
                    s.printableName ++ " " ++ "as" ++ " " ++
                      t.printableName :=
                rfl
              simp [hText]
            have hEnds :
                EndsPiece ([' ', 'a', 's', ' '] ++
                  (t.printableName.toList ++ rest)) :=
              endsPiece_cons rfl _
            rw [hChars, hs _ hEnds,
              wordsBehindCommas_append (by decide),
              ht _ hRest, Property.laterKeywords,
              List.map_append, List.append_assoc]
    | datatype d =>
        exact wordsBehindCommas_append d.comma_notMem_text rest
    | regex _ | premise _ | conclusion _ =>
        exact hWords.elim
  statement := by
    intro s ih hWorded
    have hReads :
        ∀ p ∈ s.properties.toList, p.ReadsPieces :=
      fun p hp =>
        ih p hp (hWorded.hasWords_of_mem hp)
          (fun t ht => hWorded.of_mem_types hp ht)
    by_cases hFull : s.IsShownInFull
    · exact Statement.readsPieces_of_isShownInFull hFull
        hReads
    · exact Statement.readsPieces_of_not_isShownInFull hFull
        (hWorded.isDelimiter_eq_false hFull)
  pattern := by
    intro _ _ _
    trivial

end GraphSchema

------------------------------------------------------------
-- Reading Statements
------------------------------------------------------------

namespace GraphSchema

open Text

namespace Statement

/- The properties of a statement with words are read off. -/
theorem IsWorded.readsPieces
    {s : Statement}
    {p : Property}
    (h : s.IsWorded)
    (hp : p ∈ s.properties.toList) : p.ReadsPieces :=
  hereditary_readsPieces.ofProperty p (h.hasWords_of_mem hp)
    (fun _ ht => h.of_mem_types hp ht)

/- Properties start the pieces of what follows them. -/
theorem IsWorded.words_of_cons
    {s : Statement}
    {p : Property}
    {ps : List Property}
    (h : s.IsWorded)
    (hList : s.properties.toList = p :: ps) :
    firstWord (p.text.toList ++
          (Property.moreChars ps ++ [';'])) ::
        wordsBehindCommas (p.text.toList ++
          (Property.moreChars ps ++ [';'])) =
      s.pieceKeywords.map (fun k => k.text.toList) := by
  have hReads : ∀ q ∈ p :: ps, q.ReadsPieces := by
    rw [← hList]
    exact fun q hq => h.readsPieces hq
  rcases List.forall_mem_cons.mp hReads with ⟨hp, hps⟩
  have hEnd : EndsPiece [';'] := endsPiece_cons rfl []
  have hMore := Property.endsPiece_moreChars ps hEnd
  rw [pieceKeywords, hList, p.firstWord_text hMore,
    hp _ hMore,
    Property.wordsBehindCommas_moreChars hps hEnd]
  simp [Property.pieceKeywords, wordsBehindCommas]

/-
  The words that the pieces of a text start with are the
  keywords of the pieces of the statement.
-/
theorem leadingWords_text
    {s : Statement}
    (h : s.IsWorded) :
    leadingWords s.text.toList =
      s.pieceKeywords.map (fun k => k.text.toList) := by
  have hVar :
      ∀ c ∈ s.var.text.toList, isDelimiter c = false :=
    Variable.isDelimiter_eq_false (s.isWorded_iff.mp h).1.1
  rcases s.var.exists_text_eq_cons with ⟨name, hName⟩
  cases hList : s.properties.toList with
  | nil =>
      rw [hName] at hVar
      rw [text, String.toList_append, body_of_nil hList, hName,
        List.cons_append, leadingWords_of_no_blank,
        pieceKeywords, hList]
      · rfl
      · intro hBlank
        rcases List.mem_append.mp hBlank with hBlank | hBlank
        · exact absurd
            (hVar ' ' (List.mem_cons_of_mem _ hBlank))
            (by decide)
        · exact absurd hBlank (by decide)
  | cons p ps =>
      rw [← h.words_of_cons hList, text, String.toList_append,
        toList_body_of_cons hList]
      by_cases hUser : s.var.IsUserDefined
      · rw [hName] at hVar
        have hChars :
            (if s.var.IsUserDefined then
                s.var.text.toList ++ [' ']
              else []) ++
                (p.text.toList ++ Property.moreChars ps) ++
                  [';'] =
              '$' :: (name ++ ' ' :: (p.text.toList ++
                (Property.moreChars ps ++ [';']))) := by
          simp [hUser, hName]
        exact (congrArg leadingWords hChars).trans
          (leadingWords_of_blank
            (fun c hc => hVar c (List.mem_cons_of_mem _ hc)) _)
      · rw [if_neg hUser, List.nil_append, List.append_assoc]
        exact leadingWords_of_head_ne
          p.head?_text_append_ne

end Statement

end GraphSchema

------------------------------------------------------------
-- Brief Statements
------------------------------------------------------------

namespace GraphSchema

namespace Property

/- A property has no later pieces if its types have none. -/
theorem laterKeywords_eq_nil_iff (p : Property) :
    p.laterKeywords = [] ↔
      ∀ t ∈ p.types, t.laterKeywords = [] := by
  rw [laterKeywords_eq, List.flatMap_eq_nil_iff]

/- Every property has a piece. -/
theorem length_le_length_pieces (ps : List Property) :
    ps.length ≤ (ps.flatMap pieceKeywords).length := by
  induction ps with
  | nil =>
      simp
  | cons p ps ih =>
      simp only [List.flatMap_cons, pieceKeywords,
        List.length_append, List.length_cons]
      omega

/- There are no later pieces if there are no other pieces. -/
theorem forall_laterKeywords_eq_nil_iff
    (ps : List Property) :
    (∀ p ∈ ps, p.laterKeywords = []) ↔
      ps.flatMap pieceKeywords = ps.map keyword := by
  induction ps with
  | nil =>
      simp
  | cons p ps ih =>
      rw [List.forall_mem_cons, ih, List.flatMap_cons,
        List.map_cons, pieceKeywords, List.cons_append,
        List.cons_inj_right]
      constructor
      · rintro ⟨hNone, hRest⟩
        rw [hNone, hRest]
        rfl
      · intro hPieces
        have hLe := length_le_length_pieces ps
        have hLength := congrArg List.length hPieces
        rw [List.length_append, List.length_map] at hLength
        have hNone : p.laterKeywords = [] :=
          List.eq_nil_of_length_eq_zero (by omega)
        rw [hNone] at hPieces
        exact ⟨hNone, hPieces⟩

end Property

namespace Statement

theorem IsBrief.laterKeywords_eq_nil
    {s : Statement}
    (h : s.IsBrief) : s.laterKeywords = [] := by
  induction h with
  | shortened hShort =>
      rw [laterKeywords_eq, if_neg hShort]
  | @single s hLength _ ih =>
      have hTail : s.pieceKeywords.tail = [] := by
        rw [pieceKeywords]
        cases hList : s.properties.toList with
        | nil =>
            rfl
        | cons p ps =>
            have hNone : ps = [] := by
              rw [hList] at hLength
              simpa using hLength
            have hLater : p.laterKeywords = [] :=
              p.laterKeywords_eq_nil_iff.mpr
                (ih p (by simp [hList]))
            simp [hNone, Property.pieceKeywords, hLater]
      rw [laterKeywords_eq, hTail, ite_self]

theorem isBrief_of_laterKeywords_eq_nil
    {s : Statement}
    (hParts :
      ∀ p ∈ s.properties.toList, ∀ t ∈ p.types,
        t.laterKeywords = [] → t.IsBrief)
    (h : s.laterKeywords = []) : s.IsBrief := by
  by_cases hFull : s.IsShownInFull
  · rw [laterKeywords_eq, if_pos hFull, pieceKeywords] at h
    cases hList : s.properties.toList with
    | nil =>
        apply IsBrief.single <;> simp [hList]
    | cons p ps =>
        rw [hList, List.flatMap_cons, Property.pieceKeywords,
          List.cons_append, List.tail_cons,
          List.append_eq_nil_iff] at h
        have hNone : ps = [] := by
          cases ps with
          | nil => rfl
          | cons q qs =>
              simp [Property.pieceKeywords] at h
        rw [hNone] at hList
        apply IsBrief.single
        · simp [hList]
        · intro q hq t ht
          apply hParts q hq t ht
          rw [hList, List.mem_singleton] at hq
          rw [hq] at ht
          exact p.laterKeywords_eq_nil_iff.mp h.1 t ht
  · exact .shortened hFull

end Statement

/- The statements without later pieces are the brief ones. -/
private theorem hereditary_isBrief :
    Hereditary
      (fun p =>
        ∀ t ∈ p.types, t.laterKeywords = [] → t.IsBrief)
      (fun s => s.laterKeywords = [] → s.IsBrief)
      (fun _ => True) where
  property := by
    intro _ ih _
    exact ih
  statement := by
    intro s ih
    exact Statement.isBrief_of_laterKeywords_eq_nil ih
  pattern := by
    intro _ _ _
    trivial

namespace Statement

theorem isBrief_iff (s : Statement) :
    s.IsBrief ↔ s.laterKeywords = [] :=
  ⟨IsBrief.laterKeywords_eq_nil,
    hereditary_isBrief.ofStatement s⟩

/-
  The pieces of a statement are its properties exactly if it
  refers to brief statements only.
-/
theorem namesBriefly_iff (s : Statement) :
    s.NamesBriefly ↔
      s.pieceKeywords =
        s.properties.toList.map Property.keyword := by
  have hLater :
      s.NamesBriefly ↔
        ∀ p ∈ s.properties.toList, p.laterKeywords = [] := by
    simp only [NamesBriefly, isBrief_iff,
      Property.laterKeywords_eq_nil_iff]
  rw [hLater, pieceKeywords]
  exact Property.forall_laterKeywords_eq_nil_iff _

end Statement

end GraphSchema

------------------------------------------------------------
-- What Texts Tell
------------------------------------------------------------

namespace GraphSchema

theorem Property.built_sub_ofHistory
    [Fingerprint]
    (v : Variable)
    (direct : Bool)
    {history : List Property}
    (hHistory : ∀ p ∈ history, p.Built) :
    (sub (.ofHistory v history) direct).Built :=
  .sub direct (Statement.built_ofHistory v hHistory)

namespace Statement

/-
  Statements with the same text have the same keywords at
  the start of their pieces.  If the one refers to brief
  statements only, its properties are as many as those of
  the other and have the same keywords in order, exactly if
  the other refers to brief statements only as well.
-/
theorem keywords_of_text
    [Fingerprint]
    {s t : Statement}
    (hs : s.Built)
    (ht : t.Built)
    (hsWords : s.IsWorded)
    (htWords : t.IsWorded)
    (h : s.text = t.text) :
    s.pieceKeywords = t.pieceKeywords ∧
    (s.NamesBriefly →
      (t.NamesBriefly ↔
        s.properties.count = t.properties.count ∧
          s.properties.toList.map Property.keyword =
            t.properties.toList.map Property.keyword)) := by
  have hPieces : s.pieceKeywords = t.pieceKeywords := by
    have hWords := leadingWords_text hsWords
    rw [h, leadingWords_text htWords] at hWords
    apply List.map_injective_iff.mpr ?_ hWords.symm
    intro k l hText
    exact Vocabulary.text_injective k l
      (String.toList_injective hText)
  refine ⟨hPieces, ?_⟩
  intro hBrief
  rw [namesBriefly_iff] at hBrief ⊢
  rw [← hPieces, hBrief]
  constructor
  · intro hKeywords
    have hLength := congrArg List.length hKeywords
    rw [List.length_map, List.length_map,
      hs.wellFormed.length_toList,
      ht.wellFormed.length_toList] at hLength
    exact ⟨hLength, hKeywords⟩
  · exact fun hSame => hSame.2

/-
  Two statements below an unnamed long refer to brief ones
  only, and so they have the same keywords, although the one
  has a default for its age that the other has not.
-/
theorem keywords_of_text_belowLong :
    (@ofHistory .mixing (.named "x")
        [.sub (@ofHistory .mixing (.anonymous "1")
            [.datatype .long]) false,
          @Property.ownsAge .mixing "2" none]
        ).properties.toList.map Property.keyword =
      (@ofHistory .mixing (.named "x")
        [.sub (@ofHistory .mixing (.anonymous "3")
            [.datatype .long]) false,
          @Property.ownsAge .mixing "4" (some (.long 18))]
        ).properties.toList.map Property.keyword := by
  let _ : Fingerprint := .mixing
  have hBuilt :
      ∀ (type age : String) (v : Option Value),
        (ofHistory (.named "x")
          [.sub (ofHistory (.anonymous type)
              [.datatype .long]) false,
            Property.ownsAge age v]).Built := by
    intro type age v
    apply built_ofHistory
    simp [Property.built_sub_ofHistory,
      Property.built_ownsAge, Property.Built.datatype]
  have hTold :=
    (keywords_of_text (hBuilt "1" "2" none)
      (hBuilt "3" "4" (some (.long 18))) (by decide)
      (by decide) (by decide)).2
      ((namesBriefly_iff _).mpr (by decide))
  exact (hTold.mp ((namesBriefly_iff _).mpr (by decide))).2

/-
  A text does not tell which statement owns a piece.  That
  of a statement on `$x` below another one, which is an
  abstract long, and that of an abstract statement on `$x`
  below another one, which is a long, are both
  `$x sub datatype long, abstract;`.
-/
theorem owners_of_pieces_are_lost :
    ¬ ∀ s t : Statement,
      @Built .mixing s →
      @Built .mixing t →
      s.IsWorded →
      t.IsWorded →
      s.text = t.text →
      s.properties.count = t.properties.count ∧
        s.properties.toList.map Property.keyword =
          t.properties.toList.map Property.keyword := by
  let _ : Fingerprint := .mixing
  intro hClaim
  have hInner :
      (ofHistory (.named "x")
        [.sub (ofHistory (.anonymous "1")
          [.datatype .long, .abstract]) false]).Built := by
    apply built_ofHistory
    simp [Property.built_sub_ofHistory,
      Property.Built.datatype, Property.Built.abstract]
  have hOuter :
      (ofHistory (.named "x")
        [.sub (ofHistory (.anonymous "1")
          [.datatype .long]) false, .abstract]).Built := by
    apply built_ofHistory
    simp [Property.built_sub_ofHistory,
      Property.Built.datatype, Property.Built.abstract]
  have hCount :=
    (hClaim _ _ hInner hOuter (by decide) (by decide)
      (by decide)).1
  exact absurd hCount (by decide)

end Statement

end GraphSchema
