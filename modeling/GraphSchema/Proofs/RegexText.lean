import GraphSchema.Proofs.BuildOrder
import GraphSchema.Proofs.Pieces
import GraphSchema.Proofs.QuotedText
import Mathlib.Data.List.Infix

/-
  This file shows what the text of a statement tells of its
  regular expressions.  The text joins them by a boundary of
  two quotes and the keyword.  An expression that shows no
  such boundary itself ends where the first one stands, so
  that the expressions are told apart; every other one can
  be split at its boundary.

  Key definitions include:
    * `Text.boundary`
    * `Text.regexBoundary`
    * `Text.ShowsBoundary`
    * `Statement.ofRegexes`

  Key theorems include:
    * `Text.append_boundary_inj`
    * `Text.flatMap_boundary_inj`
    * `Text.intercalate_regexBoundary_split`
    * `Statement.toList_text_ofRegexes`
    * `Statement.text_ofRegexes_eq_iff`
    * `Statement.regexes_of_text`
-/

------------------------------------------------------------
-- Boundaries
------------------------------------------------------------

namespace GraphSchema

namespace Text

/- A gap between a closing and an opening quote. -/
def boundary (gap : List Char) : List Char :=
  '"' :: (gap ++ ['"'])

section Boundaries

variable {gap : List Char}

/-
  Where a boundary begins before another one, it is over no
  later than behind the first quote of that one: two
  boundaries have no more than a quote in common.
-/
theorem boundary_isPrefix
    {d xs ys : List Char}
    (hGap : '"' ∉ gap)
    (hd : d ≠ [])
    (h : boundary gap ++ xs = d ++ (boundary gap ++ ys)) :
    boundary gap <+: d ++ ['"'] := by
  rcases d with _ | ⟨c, d⟩
  · exact absurd rfl hd
  · simp only [boundary, List.cons_append, List.append_assoc,
      List.nil_append, List.cons.injEq] at h ⊢
    rcases h with ⟨rfl, hTail⟩
    rw [List.prefix_cons_inj]
    rcases List.append_eq_append_iff.mp hTail with
      ⟨a, rfl, hRest⟩ | ⟨a, rfl, hRest⟩
    · -- The other boundary starts behind the gap.
      rcases a with _ | ⟨c, a⟩
      · simp
      · rcases List.cons.inj hRest with ⟨rfl, _⟩
        exact ⟨a ++ ['"'], by simp⟩
    · -- It would start inside of the gap.
      rcases a with _ | ⟨c, a⟩
      · simp
      · rcases List.cons.inj hRest with ⟨rfl, _⟩
        exact absurd (by simp) hGap

/-
  A text ends at the first boundary, if no boundary is seen
  in the text and the quote behind it.
-/
theorem append_boundary_inj
    {p q xs ys : List Char}
    (hGap : '"' ∉ gap)
    (hp : ¬ boundary gap <:+: p ++ ['"'])
    (hq : ¬ boundary gap <:+: q ++ ['"'])
    (h :
      p ++ (boundary gap ++ xs) =
        q ++ (boundary gap ++ ys)) :
    p = q ∧ xs = ys := by
  have hNothing :
      ∀ {r d us vs : List Char},
        ¬ boundary gap <:+: (r ++ d) ++ ['"'] →
        boundary gap ++ us = d ++ (boundary gap ++ vs) →
        d = [] := by
    intro r d us vs hShows hEq
    by_contra hd
    have hInfix := (boundary_isPrefix hGap hd hEq).isInfix
    rw [List.append_assoc] at hShows
    exact hShows (hInfix.trans
      (List.suffix_append r (d ++ ['"'])).isInfix)
  rcases List.append_eq_append_iff.mp h with
    ⟨d, rfl, hRest⟩ | ⟨d, rfl, hRest⟩
  · have hd := hNothing hq hRest
    subst hd
    exact ⟨by simp, List.append_cancel_left hRest⟩
  · have hd := hNothing hp hRest
    subst hd
    exact ⟨by simp, (List.append_cancel_left hRest).symm⟩

/- Texts that show no boundary are told apart by boundaries. -/
theorem flatMap_boundary_inj
    {p q : List Char}
    {ps qs : List (List Char)}
    (hGap : '"' ∉ gap)
    (hps : ∀ r ∈ p :: ps, ¬ boundary gap <:+: r ++ ['"'])
    (hqs : ∀ r ∈ q :: qs, ¬ boundary gap <:+: r ++ ['"'])
    (h :
      p ++ ps.flatMap (fun r => boundary gap ++ r) =
        q ++ qs.flatMap (fun r => boundary gap ++ r)) :
    p :: ps = q :: qs := by
  -- No single text is a text in front of a boundary.
  have hSingle :
      ∀ {r t rest : List Char},
        ¬ boundary gap <:+: r ++ ['"'] →
        r ≠ t ++ (boundary gap ++ rest) := by
    rintro r t rest hShows rfl
    exact hShows ⟨t, rest ++ ['"'], by simp⟩
  induction ps generalizing p q qs with
  | nil =>
      cases qs with
      | nil =>
          simpa using h
      | cons q' qs =>
          simp only [List.flatMap_nil, List.flatMap_cons,
            List.append_nil, List.append_assoc] at h
          exact absurd h (hSingle (hps p (by simp)))
  | cons p' ps ih =>
      cases qs with
      | nil =>
          simp only [List.flatMap_nil, List.flatMap_cons,
            List.append_nil, List.append_assoc] at h
          exact absurd h.symm (hSingle (hqs q (by simp)))
      | cons q' qs =>
          rcases List.forall_mem_cons.mp hps with
            ⟨hp, hMore⟩
          rcases List.forall_mem_cons.mp hqs with
            ⟨hq, hOther⟩
          simp only [List.flatMap_cons,
            List.append_assoc] at h
          rcases append_boundary_inj hGap hp hq h with
            ⟨rfl, hRest⟩
          rw [ih hMore hOther hRest]

end Boundaries

end Text

end GraphSchema

------------------------------------------------------------
-- Joined Expressions
------------------------------------------------------------

namespace GraphSchema

namespace Text

/- What the text has between two regular expressions. -/
def regexBoundary : String :=
  "\", regex \""

/-
  A boundary is seen in an expression and the quote that is
  shown behind it.
-/
def ShowsBoundary (expression : String) : Prop :=
  regexBoundary.toList <:+: expression.toList ++ ['"']

instance : DecidablePred ShowsBoundary :=
  fun expression =>
    List.decidableInfix regexBoundary.toList
      (expression.toList ++ ['"'])

theorem toList_regexBoundary :
    regexBoundary.toList = boundary ", regex ".toList :=
  rfl

theorem slashEach_regexBoundary :
    slashEach '/' regexBoundary.toList =
      regexBoundary.toList :=
  rfl

/- Expressions that show no boundary are told apart. -/
theorem intercalate_regexBoundary_inj
    {p q : String}
    {ps qs : List String}
    (hps : ∀ r ∈ p :: ps, ¬ ShowsBoundary r)
    (hqs : ∀ r ∈ q :: qs, ¬ ShowsBoundary r)
    (h :
      String.intercalate regexBoundary (p :: ps) =
        String.intercalate regexBoundary (q :: qs)) :
    p :: ps = q :: qs := by
  have hChars := congrArg String.toList h
  have hMapped :
      ∀ {r : String} {rs : List String},
        (∀ t ∈ r :: rs, ¬ ShowsBoundary t) →
        ∀ cs ∈ r.toList :: rs.map String.toList,
          ¬ boundary ", regex ".toList <:+: cs ++ ['"'] := by
    intro r rs hrs cs hcs
    rw [← List.map_cons] at hcs
    rcases List.mem_map.mp hcs with ⟨t, ht, rfl⟩
    exact hrs t ht
  rw [toList_intercalate_cons, toList_intercalate_cons,
    toList_regexBoundary] at hChars
  have hLists :=
    flatMap_boundary_inj (by decide) (hMapped hps)
      (hMapped hqs)
      (by simpa only [List.flatMap_map] using hChars)
  rw [← List.map_cons, ← List.map_cons] at hLists
  exact List.map_injective_iff.mpr
    (fun _ _ => String.toList_injective) hLists

end Text

end GraphSchema

------------------------------------------------------------
-- Splitting at a Boundary
------------------------------------------------------------

namespace GraphSchema

namespace Text

/-
  An expression with its quote is cut where it shows a
  boundary.
-/
theorem showsBoundary_iff {r : String} :
    ShowsBoundary r ↔
      ∃ u v : String,
        u ++ regexBoundary ++ v = r ++ "\"" := by
  constructor
  · rintro ⟨before, after, hChars⟩
    refine ⟨.ofList before, .ofList after, ?_⟩
    apply String.toList_injective
    simpa using hChars
  · rintro ⟨u, v, hText⟩
    have hChars := congrArg String.toList hText
    exact ⟨u.toList, v.toList, by simpa using hChars⟩

/- A boundary is a quote and the opening of an expression. -/
theorem regexBoundary_eq :
    regexBoundary = "\"" ++ ", regex \"" :=
  rfl

/-
  An expression and the same one with its quote are joined
  to the text of what stands before the boundary and of what
  stands behind it, up to the end.
-/
theorem intercalate_regexBoundary_split
    {r u v : String}
    (h : u ++ regexBoundary ++ v = r ++ "\"") :
    String.intercalate regexBoundary [r, r ++ "\""] =
      String.intercalate regexBoundary
        [u, v ++ ", regex \"" ++ (r ++ "\"")] := by
  calc
    String.intercalate regexBoundary [r, r ++ "\""]
      = r ++ regexBoundary ++ (r ++ "\"") := by
        simp [String.append_assoc]
    _ = r ++ "\"" ++ (", regex \"" ++ (r ++ "\"")) := by
        simp only [regexBoundary_eq, String.append_assoc]
    _ = u ++ regexBoundary ++ v ++
          (", regex \"" ++ (r ++ "\"")) := by
        rw [h]
    _ = String.intercalate regexBoundary
          [u, v ++ ", regex \"" ++ (r ++ "\"")] := by
        simp [String.append_assoc]

theorem length_lt_of_split
    {r u v : String}
    (h : u ++ regexBoundary ++ v = r ++ "\"") :
    u.length < (r ++ "\"").length ∧
      (r ++ "\"").length <
        (v ++ ", regex \"" ++ (r ++ "\"")).length := by
  have hGap : ", regex \"".length = 9 :=
    rfl
  have hLength := congrArg String.length h
  simp only [regexBoundary_eq, String.length_append,
    hGap] at hLength ⊢
  omega

theorem eraseDups_pair
    {s t : String}
    (h : s.length < t.length) :
    [s, t].eraseDups = [s, t] := by
  have hNe : t ≠ s := by
    rintro rfl
    exact Nat.lt_irrefl _ h
  simp [List.eraseDups_cons, hNe]

end Text

end GraphSchema

------------------------------------------------------------
-- Texts of Regular Expressions
------------------------------------------------------------

namespace GraphSchema

open Text

theorem toList_regexText (expression : String) :
    (regexText expression).toList =
      '"' :: (slashEach '/' expression.toList ++ ['"']) := by
  have hSlashed :
      expression.toList.flatMap (fun c =>
          if c = '/' then ['\\', '/'] else [c]) =
        slashEach '/' expression.toList := by
    apply List.flatMap_congr
    intro c _
    by_cases hc : c = '/' <;>
      simp [hc]
  simp [regexText, hSlashed]

namespace Property

theorem toList_text_regex (expression : String) :
    (regex expression).text.toList =
      "regex \"".toList ++
        (slashEach '/' expression.toList ++ ['"']) := by
  have hArgument : (regex expression).argumentText =
      regexText expression :=
    rfl
  have hNonempty : regexText expression ≠ "" := by
    intro hEmpty
    have hChars := toList_regexText expression
    rw [hEmpty] at hChars
    cases hChars
  rw [text, hArgument, propertyText, if_neg hNonempty,
    String.toList_append, String.toList_append,
    toList_regexText]
  simp [keyword, Keyword.text]

/-
  Further regular expressions stand behind boundaries, from
  the closing quote of the one before them.
-/
theorem quote_moreChars_regex (expressions : List String) :
    '"' :: moreChars (expressions.map regex) =
      expressions.flatMap (fun r =>
          regexBoundary.toList ++ slashEach '/' r.toList) ++
        ['"'] := by
  induction expressions with
  | nil =>
      rfl
  | cons r expressions ih =>
      have hChars :
          moreChars ((r :: expressions).map regex) =
            ',' :: ' ' :: ((regex r).text.toList ++
              moreChars (expressions.map regex)) :=
        rfl
      simp only [hChars, toList_text_regex,
        List.flatMap_cons, List.append_assoc, ← ih]
      simp [regexBoundary]

/-
  The characters of several regular expressions are those
  of the slashed expressions, joined by boundaries.
-/
theorem toList_texts_regex
    (r : String)
    (rs : List String) :
    (regex r).text.toList ++ moreChars (rs.map regex) =
      "regex \"".toList ++
        (slashEach '/'
            (String.intercalate regexBoundary
              (r :: rs)).toList ++ ['"']) := by
  have hSlashed :
      slashEach '/'
          (rs.flatMap (fun s =>
            regexBoundary.toList ++ s.toList)) =
        rs.flatMap (fun s =>
          regexBoundary.toList ++
            slashEach '/' s.toList) := by
    induction rs with
    | nil =>
        rfl
    | cons s rs ih =>
        rw [List.flatMap_cons, List.flatMap_cons,
          slashEach_append, slashEach_append,
          slashEach_regexBoundary, ih]
  rw [toList_text_regex, toList_intercalate_cons,
    slashEach_append, hSlashed, List.append_assoc,
    List.append_assoc, List.append_assoc,
    ← quote_moreChars_regex]
  rfl

end Property

end GraphSchema

------------------------------------------------------------
-- Statements With Regular Expressions
------------------------------------------------------------

namespace GraphSchema

open Text

theorem Property.beq_regex_iff (r t : String) :
    (regex r == regex t) = true ↔ r = t :=
  beq_iff_eq (a := r) (b := t)

/- Which of some expressions are new to a statement. -/
theorem Property.novel_map_regex
    (earlier expressions : List String) :
    novel (earlier.map regex) (expressions.map regex) =
      (expressions.filter (fun r =>
        r ∉ earlier)).eraseDups.map regex := by
  induction expressions generalizing earlier with
  | nil =>
      rfl
  | cons r expressions ih =>
      have hAny :
          (earlier.map regex).any (fun p => p == regex r) =
              true ↔
            r ∈ earlier := by
        simp [Property.beq_regex_iff]
      have hMore := ih (earlier ++ [r])
      rw [List.map_append, List.map_singleton] at hMore
      rw [List.map_cons, novel, hMore]
      by_cases hr : r ∈ earlier
      · have hSame :
            ∀ t,
              decide (t ∉ earlier ++ [r]) =
                decide (t ∉ earlier) := by
          intro t
          by_cases ht : t = r <;>
            simp [ht, hr]
        rw [if_pos (hAny.mpr hr), List.filter_cons_of_neg
          (by simpa using hr)]
        simp only [hSame]
      · have hSame :
            ∀ t,
              (!t == r && decide (t ∉ earlier)) =
                decide (t ∉ earlier ++ [r]) := by
          intro t
          by_cases ht : t = r <;>
            simp [ht]
        rw [if_neg (mt hAny.mp hr), List.filter_cons_of_pos
            (by simpa using hr),
          List.eraseDups_cons, List.filter_filter,
          List.map_cons]
        simp only [hSame]

namespace Statement

variable [Fingerprint]

/-
  The statement on a variable with regular expressions that
  are appended one after another.
-/
def ofRegexes
    (x : Variable)
    (expressions : List String) : Statement :=
  ofHistory x (expressions.map .regex)

theorem forall_built_regex (expressions : List String) :
    ∀ p ∈ expressions.map Property.regex, p.Built := by
  intro p hp
  rcases List.mem_map.mp hp with ⟨r, _, rfl⟩
  exact .regex r

/- Each regular expression is there once. -/
theorem toList_ofRegexes
    (x : Variable)
    (expressions : List String) :
    (ofRegexes x expressions).properties.toList =
      expressions.eraseDups.map .regex := by
  have hNothing :
      ∀ q : Property,
        q.Built →
          ((new x).properties.contains q = true ↔
            ∃ p ∈ [], (p == q) = true) := by
    simp [new, Properties.contains,
      Properties.containsWith, Properties.empty]
  have hList :=
    toList_appendAll (.new x)
      (forall_built_regex expressions) hNothing
  have hNovel := Property.novel_map_regex [] expressions
  have hNew : (new x).properties.toList = [] :=
    rfl
  rw [ofRegexes, ofHistory, hList, hNew, List.nil_append]
  simpa using hNovel

theorem beq_ofRegexes_iff
    (x : Variable)
    (ps qs : List String) :
    (ofRegexes x ps == ofRegexes x qs) = true ↔
      ∀ r, r ∈ ps ↔ r ∈ qs := by
  rw [ofRegexes, ofRegexes,
    beq_ofHistory_iff (forall_built_regex ps)
      (forall_built_regex qs)]
  simp only [List.mem_map, forall_exists_index, and_imp,
    forall_apply_eq_imp_iff₂, exists_exists_and_eq_and,
    Property.beq_regex_iff, exists_eq_right',
    Variable.Agree.refl, true_and]
  constructor
  · rintro ⟨hps, hqs⟩ r
    exact ⟨hps r, hqs r⟩
  · intro h
    exact ⟨fun r => (h r).mp, fun r => (h r).mpr⟩

end Statement

end GraphSchema

------------------------------------------------------------
-- What the Text Tells
------------------------------------------------------------

namespace GraphSchema

open Text

namespace Statement

section Texts

variable [Fingerprint]

theorem toList_text_ofRegexes_nil (x : Variable) :
    (ofRegexes x []).text.toList =
      x.text.toList ++ [';'] := by
  have hList : (ofRegexes x []).properties.toList = [] :=
    rfl
  have hVar : (ofRegexes x []).var = x :=
    var_ofHistory x []
  rw [text, body_of_nil hList, hVar, String.toList_append]
  rfl

/-
  The text shows the different expressions, slashed and
  joined by boundaries.
-/
theorem toList_text_ofRegexes
    (x : Variable)
    {expressions : List String}
    (hSome : expressions ≠ []) :
    (ofRegexes x expressions).text.toList =
      (if x.IsUserDefined then x.text.toList ++ [' ']
        else []) ++
      ("regex \"".toList ++
        (slashEach '/'
            (String.intercalate regexBoundary
              expressions.eraseDups).toList ++
          ['"', ';'])) := by
  rcases expressions with _ | ⟨r, rs⟩
  · exact absurd rfl hSome
  · have hList := toList_ofRegexes x (r :: rs)
    have hVar : (ofRegexes x (r :: rs)).var = x :=
      var_ofHistory x _
    rw [List.eraseDups_cons, List.map_cons] at hList
    rw [text, String.toList_append,
      toList_body_of_cons hList, hVar,
      Property.toList_texts_regex, List.eraseDups_cons]
    simp

/- Expressions are seen in the text. -/
theorem text_ofRegexes_ne
    (x : Variable)
    {expressions : List String}
    (hSome : expressions ≠ []) :
    (ofRegexes x expressions).text ≠
      (ofRegexes x []).text := by
  intro hText
  have hChars := congrArg String.toList hText
  rw [toList_text_ofRegexes x hSome,
    toList_text_ofRegexes_nil] at hChars
  rcases x.exists_text_eq_cons with ⟨cs, hVar⟩
  by_cases hUser : x.IsUserDefined
  · simp [hUser] at hChars
  · simp [hUser, hVar] at hChars

/-
  Statements on one variable have the same text if the
  different expressions of both, joined by boundaries, are
  the same text, and neither or both have any.
-/
theorem text_ofRegexes_eq_iff
    (x : Variable)
    (ps qs : List String) :
    (ofRegexes x ps).text = (ofRegexes x qs).text ↔
      (ps = [] ↔ qs = []) ∧
        String.intercalate regexBoundary ps.eraseDups =
          String.intercalate regexBoundary qs.eraseDups := by
  by_cases hps : ps = [] <;> by_cases hqs : qs = []
  · simp [hps, hqs]
  · have hText := (text_ofRegexes_ne x hqs).symm
    simp [hps, hqs, hText]
  · have hText := text_ofRegexes_ne x hps
    simp [hps, hqs, hText]
  · simp only [hps, hqs, true_and]
    constructor
    · intro hText
      have hChars := congrArg String.toList hText
      rw [toList_text_ofRegexes x hps,
        toList_text_ofRegexes x hqs] at hChars
      have hSlashed :=
        List.append_cancel_right
          (List.append_cancel_left
            (List.append_cancel_left hChars))
      exact String.toList_injective
        (slashEach_inj (by decide) hSlashed)
    · intro hJoined
      apply String.toList_injective
      rw [toList_text_ofRegexes x hps,
        toList_text_ofRegexes x hqs, hJoined]

/- Expressions that show no boundary are read off the text. -/
theorem eraseDups_eq_of_text_eq
    {x : Variable}
    {ps qs : List String}
    (hps : ∀ r ∈ ps, ¬ ShowsBoundary r)
    (hqs : ∀ r ∈ qs, ¬ ShowsBoundary r)
    (h : (ofRegexes x ps).text = (ofRegexes x qs).text) :
    ps.eraseDups = qs.eraseDups := by
  rcases (text_ofRegexes_eq_iff x ps qs).mp h with
    ⟨hNone, hJoined⟩
  have hKept :
      ∀ {rs : List String},
        (∀ r ∈ rs, ¬ ShowsBoundary r) →
        ∀ r ∈ rs.eraseDups, ¬ ShowsBoundary r := by
    intro rs hrs r hr
    exact hrs r (List.mem_eraseDups.mp hr)
  have hpsKept := hKept hps
  have hqsKept := hKept hqs
  rcases ps with _ | ⟨p, ps⟩
  · rw [hNone.mp rfl]
  · rcases qs with _ | ⟨q, qs⟩
    · exact absurd (hNone.mpr rfl) (by simp)
    · rw [List.eraseDups_cons] at hpsKept hJoined ⊢
      rw [List.eraseDups_cons] at hqsKept hJoined ⊢
      exact intercalate_regexBoundary_inj hpsKept hqsKept
        hJoined

/-
  An expression that shows a boundary is not told apart: it
  and the one with its quote have the text of the two parts
  around the boundary.
-/
theorem exists_text_eq_of_showsBoundary
    (x : Variable)
    {r : String}
    (h : ShowsBoundary r) :
    ∃ ps qs,
      r ∈ ps ∧
        (ofRegexes x ps).text = (ofRegexes x qs).text ∧
        (ofRegexes x ps == ofRegexes x qs) = false := by
  rcases showsBoundary_iff.mp h with ⟨u, v, hSplit⟩
  rcases length_lt_of_split hSplit with ⟨hShort, hLong⟩
  have hQuote : r.length < (r ++ "\"").length := by
    have hOne : "\"".length = 1 :=
      rfl
    rw [String.length_append, hOne]
    exact Nat.lt_succ_self _
  refine ⟨[r, r ++ "\""],
    [u, v ++ ", regex \"" ++ (r ++ "\"")], by simp, ?_, ?_⟩
  · rw [text_ofRegexes_eq_iff, eraseDups_pair hQuote,
      eraseDups_pair (hShort.trans hLong)]
    exact ⟨by simp, intercalate_regexBoundary_split hSplit⟩
  · rw [Bool.eq_false_iff, Ne, beq_ofRegexes_iff]
    intro hSame
    -- The second expression has another length than both.
    have hMem := (hSame (r ++ "\"")).mp (by simp)
    rcases List.mem_pair.mp hMem with hw | hw
    · exact absurd (congrArg String.length hw) hShort.ne'
    · exact absurd (congrArg String.length hw) hLong.ne

end Texts

/-
  What the text of a statement tells of its regular
  expressions.  Statements on one variable have the same
  text exactly if both or neither have expressions, and the
  different ones of each, in the order in which they were
  first appended and joined by boundaries, are one text.
  So the text tells expressions apart that show no boundary,
  whatever quotes, slashes and backslashes are in them.  It
  fails to do so for any expression that shows one.
-/
theorem regexes_of_text
    [Fingerprint]
    (x : Variable) :
    (∀ ps qs : List String,
      (∀ r ∈ ps ++ qs, ¬ ShowsBoundary r) →
      (ofRegexes x ps).text = (ofRegexes x qs).text →
        ps.eraseDups = qs.eraseDups ∧
          (ofRegexes x ps == ofRegexes x qs) = true) ∧
    (∀ ps qs : List String,
      (ofRegexes x ps).text = (ofRegexes x qs).text ↔
        (ps = [] ↔ qs = []) ∧
          String.intercalate regexBoundary ps.eraseDups =
            String.intercalate regexBoundary qs.eraseDups) ∧
    (∀ r : String,
      ShowsBoundary r →
        ∃ ps qs,
          r ∈ ps ∧
            (ofRegexes x ps).text = (ofRegexes x qs).text ∧
            (ofRegexes x ps == ofRegexes x qs) = false) := by
  refine ⟨?_, text_ofRegexes_eq_iff x, ?_⟩
  · intro ps qs hPlain hText
    rcases List.forall_mem_append.mp hPlain with ⟨hps, hqs⟩
    have hSame := eraseDups_eq_of_text_eq hps hqs hText
    refine ⟨hSame, ?_⟩
    rw [beq_ofRegexes_iff]
    intro r
    rw [← List.mem_eraseDups, hSame, List.mem_eraseDups]
  · intro r hShows
    exact exists_text_eq_of_showsBoundary x hShows

/-
  Quotes, slashes and backslashes in expressions, and an
  expression that is appended twice.
-/
theorem regexes_of_text_slashed :
    (∀ r ∈ ["a\"/\\\"b", "\\/"], ¬ ShowsBoundary r) ∧
    (@ofRegexes .mixing (.named "x")
        ["a\"/\\\"b", "\\/", "a\"/\\\"b"]).text =
      (@ofRegexes .mixing (.named "x")
        ["a\"/\\\"b", "\\/"]).text ∧
    (@ofRegexes .mixing (.named "x")
        ["a\"/\\\"b", "\\/", "a\"/\\\"b"] ==
      @ofRegexes .mixing (.named "x")
        ["a\"/\\\"b", "\\/"]) = true := by
  let _ : Fingerprint := .mixing
  have hText :
      (ofRegexes (.named "x")
          ["a\"/\\\"b", "\\/", "a\"/\\\"b"]).text =
        (ofRegexes (.named "x") ["a\"/\\\"b", "\\/"]).text := by
    decide
  exact ⟨by decide, hText,
    ((regexes_of_text (.named "x")).1 _ _ (by decide)
      hText).2⟩

/-
  The text of a single expression with a boundary in it is
  that of the two parts: `$x regex "a", regex "b";`.
-/
theorem regexes_run_together :
    ¬ ∀ (x : Variable) (ps qs : List String),
      x.IsUserDefined →
      (@ofRegexes .mixing x ps).text =
        (@ofRegexes .mixing x qs).text →
      (@ofRegexes .mixing x ps ==
        @ofRegexes .mixing x qs) = true := by
  let _ : Fingerprint := .mixing
  intro hClaim
  have hEqual :=
    hClaim (.named "x") ["a\", regex \"b"] ["a", "b"]
      rfl (by decide)
  rw [beq_ofRegexes_iff] at hEqual
  exact absurd ((hEqual "a").mpr (by simp)) (by decide)

end Statement

end GraphSchema
