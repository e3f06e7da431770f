import GraphSchema.Proofs.Likeness
import GraphSchema.Proofs.Listing

/-
  This file shows that the document of a statement and its
  traversal agree on what the statement contains: read from
  the text of the document, the variables come in the order
  in which the traversal visits their statements.

  Key definitions include:
    * `Json.contents`

  Key theorems include:
    * `Statement.contents_toJson`
    * `Statement.varList_eq_map`
    * `Statement.variables_in_document_order`
-/

------------------------------------------------------------
-- Members in Document Order
------------------------------------------------------------

namespace GraphSchema

namespace Json

mutual

/-
  The contents of all members with a name, at any depth and
  in document order: the content of a member comes before
  what is found inside of it.
-/
def contents (name : String) : Json → List Json
| .array items => itemContents name items
| .object members => memberContents name members
| _ => []
termination_by structural j => j

/- The contents that are found in items, in order. -/
def itemContents (name : String) : List Json → List Json
| [] => []
| item :: items =>
    item.contents name ++ itemContents name items
termination_by structural items => items

/- The contents that are found in members, in order. -/
def memberContents
    (name : String) :
    List (String × Json) → List Json
| [] => []
| (key, content) :: members =>
    (if key = name then [content] else []) ++
      (content.contents name ++ memberContents name members)
termination_by structural members => members

end

theorem itemContents_eq_flatMap
    (name : String)
    (items : List Json) :
    itemContents name items =
      items.flatMap (contents name) := by
  apply eq_flatMap_of_cons rfl
  intro item items
  rw [itemContents]

end Json

end GraphSchema

------------------------------------------------------------
-- Variables in Documents
------------------------------------------------------------

namespace GraphSchema

/- There is no variable in the document of a variable. -/
theorem Variable.contents_toJson (v : Variable) :
    v.toJson.contents "var" = [] := by
  simp [toJson, Vocabulary.toJson, Json.contents,
    Json.memberContents]

/- There is no variable in the document of a value. -/
theorem Value.contents_toJson (v : Value) :
    v.toJson.contents "var" = [] := by
  cases v with
  | double x =>
      cases hNumeral : x.numeral? <;>
        simp [toJson, hNumeral, Json.contents,
          Json.memberContents]
  | _ =>
      simp [toJson, Json.contents, Json.memberContents]

private theorem hereditary_contents_toJson :
    Hereditary
      (fun p =>
        p.toJson.contents "var" =
          p.listing.map (fun t => t.var.toJson))
      (fun s =>
        s.toJson.contents "var" =
          s.listing.map (fun t => t.var.toJson))
      (fun x =>
        x.toJson.contents "var" =
          x.listing.map (fun t => t.var.toJson)) where
  property := by
    intro p hTypes hPatterns
    rcases p with
      l | _ | ⟨s, direct⟩ | ⟨s, isKey, _ | v⟩ |
      ⟨s, required⟩ | ⟨s, _ | t⟩ | d | l | x | x <;>
    simp_all [Property.toJson, propertyObject,
      Property.listing, Property.types, Property.patterns,
      Vocabulary.toJson, Value.contents_toJson,
      Json.contents, Json.memberContents]
  statement := by
    intro s hProperties
    rw [Statement.toJson_eq, Statement.listing_eq_cons]
    simp only [Json.contents, Json.memberContents,
      Json.itemContents_eq_flatMap, List.flatMap_map,
      Variable.contents_toJson, List.map_cons,
      List.map_flatMap]
    simp [List.flatMap_congr hProperties]
  pattern := by
    intro x hLeaves hParts
    cases x with
    | conjunction ps | disjunction ps =>
        have hItems :
            ps.flatMap (fun q => q.toJson.contents "var") =
              ps.flatMap (fun q =>
                q.listing.map (fun t => t.var.toJson)) :=
          List.flatMap_congr hParts
        simp [Pattern.toJson, Pattern.listing,
          Pattern.toJsons_eq_map,
          Pattern.listListing_eq_flatMap, Json.contents,
          Json.memberContents,
          Json.itemContents_eq_flatMap, List.flatMap_map,
          List.map_flatMap, hItems]
    | _ =>
        simp_all [Pattern.toJson, Pattern.listing,
          Pattern.leaves, Pattern.parts, Json.contents,
          Json.memberContents]

/-
  The variables in the document of a statement are those of
  its listing.
-/
theorem Statement.contents_toJson (s : Statement) :
    s.toJson.contents "var" =
      s.listing.map (fun t => t.var.toJson) :=
  hereditary_contents_toJson.ofStatement s

end GraphSchema

------------------------------------------------------------
-- Numbered Variables
------------------------------------------------------------

namespace GraphSchema

theorem Pattern.listVarList_eq_flatMap (ps : List Pattern) :
    listVarList ps = ps.flatMap varList := by
  apply eq_flatMap_of_cons rfl
  intro p ps
  rw [listVarList]

theorem Entry.varLists_eq_map (entries : List Entry) :
    varLists entries =
      entries.map (fun e => e.property.varList) := by
  apply eq_map_of_cons rfl
  rintro ⟨p, fingerprint⟩ rest
  rw [varLists]

/- The variable of a statement comes before the others. -/
theorem Statement.varList_eq_cons (s : Statement) :
    s.varList =
      s.var :: s.properties.toList.flatMap Property.varList := by
  rcases s with ⟨v, entries, count⟩
  rw [varList, Properties.toList, Entry.varLists_eq_map,
    List.flatMap_def, List.map_reverse, List.map_map]
  rfl

private theorem hereditary_varList_eq_map :
    Hereditary
      (fun p => p.varList = p.listing.map Statement.var)
      (fun s => s.varList = s.listing.map Statement.var)
      (fun x => x.varList = x.listing.map Statement.var) where
  property := by
    intro p hTypes hPatterns
    rcases p with
      l | _ | ⟨s, direct⟩ | ⟨s, isKey, v⟩ |
      ⟨s, required⟩ | ⟨s, _ | t⟩ | d | l | x | x <;>
    simp_all [Property.varList, Property.listing,
      Property.types, Property.patterns]
  statement := by
    intro s hProperties
    rw [Statement.varList_eq_cons, Statement.listing_eq_cons,
      List.map_cons, List.map_flatMap,
      List.flatMap_congr hProperties]
  pattern := by
    intro x hLeaves hParts
    cases x with
    | conjunction ps | disjunction ps =>
        rw [Pattern.varList, Pattern.listing,
          Pattern.listVarList_eq_flatMap,
          Pattern.listListing_eq_flatMap, List.map_flatMap]
        exact List.flatMap_congr hParts
    | _ =>
        simp_all [Pattern.varList, Pattern.listing,
          Pattern.leaves, Pattern.parts]

/- Variables are numbered in the order of the listing. -/
theorem Statement.varList_eq_map (s : Statement) :
    s.varList = s.listing.map var :=
  hereditary_varList_eq_map.ofStatement s

end GraphSchema

------------------------------------------------------------
-- Documents and Traversals
------------------------------------------------------------

namespace GraphSchema

namespace Statement

/-
  The variables that are read from the text of a document,
  in document order, are those of the statements that the
  traversal visits, as often and in the same order.  In this
  order anonymous variables are numbered.
-/
theorem variables_in_document_order (s : Statement) :
    (Json.ofText? s.toJson.text).map (fun j =>
        (j.contents "var").map Variable.ofJson?) =
      some (s.innerStatements.map (fun t => some t.var)) ∧
    (Json.ofText? s.toJson.text).map (fun j =>
        (j.contents "var").map Json.text) =
      some (s.innerStatements.map (fun t =>
        t.var.toJson.text)) ∧
    s.varList = s.innerStatements.map var := by
  rw [innerStatements_eq_listing]
  refine ⟨?_, ?_, s.varList_eq_map⟩
  · rw [Json.ofText?_text, Option.map_some, contents_toJson,
      List.map_map]
    simp only [Function.comp_def, Variable.ofJson?_toJson]
  · rw [Json.ofText?_text, Option.map_some, contents_toJson,
      List.map_map]
    simp only [Function.comp_def]

end Statement

end GraphSchema
