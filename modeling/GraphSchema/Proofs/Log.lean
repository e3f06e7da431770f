import GraphSchema.Proofs.Clauses
import GraphSchema.Proofs.History

/-
  This file shows that the events of building account for
  what was done: each property of a run is reported when it
  is appended, and next when an equal one was listed by
  then.  Arguments that are rejected are reported and
  nothing else.

  Key definitions include:
    * `Event.isAppending`
    * `Event.isSkipping`
    * `Statement.reportAt`

  Key theorems include:
    * `Statement.events_appendAll`
    * `Statement.count_appendAll_add_skipped`
    * `Receiver.withClause_hasWith_of_firstRepeated`
    * `Statement.log_of_run`
-/

------------------------------------------------------------
-- Kinds of Events
------------------------------------------------------------

namespace GraphSchema

namespace Event

/- A property is appended. -/
def isAppending : Event → Bool
| .appending _ _ => true
| _ => false

def isSkipping : Event → Bool
| .skippingDuplicate _ => true
| _ => false

theorem line_appending
    (p : Property)
    (v : Variable) :
    (appending p v).line =
      "TRACE Appending `" ++ p.text ++ "` to " ++ v.text := by
  have hLine :
      (appending p v).line =
        "TRACE" ++ " " ++
          ("Appending `" ++ p.text ++ "` to " ++ v.text) :=
    rfl
  have hStart :
      "TRACE" ++ " " ++ "Appending `" = "TRACE Appending `" :=
    rfl
  rw [hLine, ← hStart]
  simp only [String.append_assoc]

theorem line_skippingDuplicate (p : Property) :
    (skippingDuplicate p).line =
      "TRACE Skipping duplicate property `" ++ p.text
        ++ "`" := by
  have hLine :
      (skippingDuplicate p).line =
        "TRACE" ++ " " ++
          ("Skipping duplicate property `" ++ p.text ++ "`") :=
    rfl
  have hStart :
      "TRACE" ++ " " ++ "Skipping duplicate property `" =
        "TRACE Skipping duplicate property `" :=
    rfl
  rw [hLine, ← hStart]
  simp only [String.append_assoc]

/- The line of arguments that are rejected for `has`. -/
theorem line_rejectingArguments
    (attributeType : Statement)
    (k : Parameter) :
    (rejectingArguments false attributeType k).line =
      "DEBUG Rejecting has " ++ attributeType.printableName
        ++ ": argument `" ++ k.text ++ "` given twice" := by
  have hLine :
      (rejectingArguments false attributeType k).line =
        "DEBUG" ++ " " ++
          ("Rejecting " ++ "has" ++ " "
            ++ attributeType.printableName ++ ": argument `"
            ++ k.text ++ "` given twice") :=
    rfl
  have hStart :
      "DEBUG" ++ " " ++ "Rejecting " ++ "has" ++ " " =
        "DEBUG Rejecting has " :=
    rfl
  rw [hLine, ← hStart]
  simp only [String.append_assoc]

end Event

end GraphSchema

------------------------------------------------------------
-- Reports of Appended Properties
------------------------------------------------------------

namespace GraphSchema

variable [Fingerprint]

namespace Statement

/-
  What is reported of a property that is appended behind
  earlier ones: that it is appended, and next that it is
  skipped, if an equal one is listed by then.
-/
def reportAt
    (s : Statement)
    (earlier : List Property)
    (p : Property) : List Event :=
  .appending p s.var ::
    if (s.appendAll earlier).value.properties.toList.any
        (fun q => q == p) then
      [.skippingDuplicate p]
    else
      []

/- One append reports the property behind no earlier one. -/
theorem events_append_eq_reportAt
    {s : Statement}
    {p : Property}
    (hs : s.Built)
    (hp : p.Built) :
    (s.append p).events = s.reportAt [] p := by
  have hListed :
      s.properties.contains p =
        s.properties.toList.any (fun q => q == p) := by
    rw [Bool.eq_iff_iff, hs.contains_iff_beq hp,
      List.any_eq_true]
  rw [events_append, hListed]
  rfl

/- The lines of a report tell the text of the property. -/
theorem map_line_reportAt
    (s : Statement)
    (earlier : List Property)
    (p : Property) :
    (s.reportAt earlier p).map Event.line =
      ("TRACE Appending `" ++ p.text ++ "` to "
          ++ s.var.text) ::
        if (s.appendAll earlier).value.properties.toList.any
            (fun q => q == p) then
          ["TRACE Skipping duplicate property `" ++ p.text
            ++ "`"]
        else
          [] := by
  rw [reportAt, List.map_cons, Event.line_appending,
    apply_ite (List.map Event.line), List.map_singleton,
    Event.line_skippingDuplicate, List.map_nil]

theorem events_appendAll_cons
    (s : Statement)
    (p : Property)
    (ps : List Property) :
    (s.appendAll (p :: ps)).events =
      (s.append p).events ++
        ((s.append p).value.appendAll ps).events :=
  rfl

/-
  A run of appends reports each of its properties behind
  those that come before it, and nothing else.
-/
theorem events_appendAll
    {s : Statement}
    {ps : List Property}
    (hs : s.Built)
    (hps : ∀ p ∈ ps, p.Built) :
    (s.appendAll ps).events =
      (List.finRange ps.length).flatMap
        (fun i : Fin ps.length =>
          s.reportAt (ps.take i.val) ps[i]) := by
  induction ps generalizing s with
  | nil =>
      rfl
  | cons p ps ih =>
      rcases List.forall_mem_cons.mp hps with ⟨hp, hRest⟩
      have hPositions :
          List.finRange (p :: ps).length =
            0 :: (List.finRange ps.length).map Fin.succ :=
        List.finRange_succ
      rw [events_appendAll_cons,
        events_append_eq_reportAt hs hp,
        ih (hs.append hp) hRest, hPositions,
        List.flatMap_cons, List.flatMap_map]
      rfl

end Statement

end GraphSchema

------------------------------------------------------------
-- Counting Events
------------------------------------------------------------

namespace GraphSchema

variable [Fingerprint]

namespace Statement

/-
  An append is reported once as such, and it is skipped or
  it adds a property.
-/
theorem count_append_add_skipped
    (s : Statement)
    (p : Property) :
    (s.append p).events.countP Event.isAppending = 1 ∧
      (s.append p).value.properties.count +
          (s.append p).events.countP Event.isSkipping =
        s.properties.count + 1 := by
  rw [properties_append, Properties.count_append,
    events_append]
  by_cases h : s.properties.contains p = true
  · simp [h, List.countP_cons, Event.isAppending,
      Event.isSkipping]
  · simp [h, Event.isAppending, Event.isSkipping]

/-
  A run of appends is reported once for each property, and
  the properties that are not skipped are added.
-/
theorem count_appendAll_add_skipped
    (s : Statement)
    (ps : List Property) :
    (s.appendAll ps).events.countP Event.isAppending =
        ps.length ∧
      (s.appendAll ps).value.properties.count +
          (s.appendAll ps).events.countP Event.isSkipping =
        s.properties.count + ps.length := by
  induction ps generalizing s with
  | nil =>
      exact ⟨rfl, rfl⟩
  | cons p ps ih =>
      rcases s.count_append_add_skipped p with
        ⟨hOne, hStep⟩
      rcases ih (s.append p).value with ⟨hMany, hRun⟩
      rw [events_appendAll_cons, value_appendAll_cons,
        List.countP_append, List.countP_append,
        List.length_cons]
      omega

end Statement

end GraphSchema

------------------------------------------------------------
-- Rejected Arguments
------------------------------------------------------------

namespace GraphSchema

variable [Fingerprint]

namespace Receiver

/- Nothing is appended when arguments are refused. -/
theorem withClause_hasWith_of_firstRepeated
    (r : Receiver)
    (attributeType : Statement)
    {args : List Argument}
    {k : Parameter}
    (h : Argument.FirstRepeated args k) :
    r.withClause (.hasWith attributeType args) =
      { value := .error (.duplicateArgument k)
        events :=
          [.rejectingArguments false attributeType k] } := by
  rw [withClause, Clause.property,
    Property.hasWith_of_firstRepeated _ _ h]
  rfl

theorem value_withClause_hasWith_eq_error_iff
    (r : Receiver)
    (attributeType : Statement)
    (args : List Argument)
    (e : BuildError) :
    (r.withClause (.hasWith attributeType args)).value =
        .error e ↔
      ∃ k,
        Argument.FirstRepeated args k ∧
          e = .duplicateArgument k := by
  constructor
  · intro h
    rcases Argument.defaultOf_cases args with
      ⟨found, _, hFound⟩ | ⟨k, _, hRepeated⟩
    · have hDenotes :
          (Clause.hasWith attributeType args).Denotes
            (.has attributeType false found) :=
        ⟨found, hFound, rfl⟩
      rw [r.value_withClause_of_denotes hDenotes] at h
      cases h
    · rw [r.withClause_hasWith_of_firstRepeated _ hRepeated]
        at h
      cases h
      exact ⟨k, hRepeated, rfl⟩
  · rintro ⟨k, hRepeated, rfl⟩
    rw [r.withClause_hasWith_of_firstRepeated _ hRepeated]

end Receiver

end GraphSchema

------------------------------------------------------------
-- The Log of a Run
------------------------------------------------------------

namespace GraphSchema

namespace Statement

/-
  The log accounts for what was done.  A run of appends
  reports each property in order, by its text and the
  variable of the statement, and next that it is skipped
  exactly if an equal property was listed by then.  So the
  properties that are appended and not skipped are those
  that the run has added.  A clause that is refused for its
  arguments is reported once, with the parameter that its
  error tells, and appends nothing.
-/
theorem log_of_run [Fingerprint] :
    (∀ (s : Statement) (ps : List Property),
      s.Built →
      (∀ p ∈ ps, p.Built) →
        (s.appendAll ps).events =
            (List.finRange ps.length).flatMap
              (fun i : Fin ps.length =>
                s.reportAt (ps.take i.val) ps[i]) ∧
        (s.appendAll ps).events.map Event.line =
            (List.finRange ps.length).flatMap
              (fun i : Fin ps.length =>
                ("TRACE Appending `" ++ ps[i].text ++ "` to "
                    ++ s.var.text) ::
                  if (s.appendAll (ps.take i.val)
                      ).value.properties.toList.any
                      (fun q => q == ps[i]) then
                    ["TRACE Skipping duplicate property `"
                      ++ ps[i].text ++ "`"]
                  else
                    [])) ∧
    (∀ (s : Statement) (ps : List Property),
      (s.appendAll ps).events.countP Event.isAppending =
          ps.length ∧
      (s.appendAll ps).value.properties.count +
          (s.appendAll ps).events.countP Event.isSkipping =
        s.properties.count +
          (s.appendAll ps).events.countP
            Event.isAppending) ∧
    (∀ (r : Receiver) (attributeType : Statement)
        (args : List Argument) (e : BuildError),
      (r.withClause (.hasWith attributeType args)).value =
          .error e →
        ∃ k,
          e = .duplicateArgument k ∧
          (r.withClause (.hasWith attributeType args)).events =
            [.rejectingArguments false attributeType k] ∧
          (r.withClause
              (.hasWith attributeType args)).events.map
              Event.line =
            ["DEBUG Rejecting has "
              ++ attributeType.printableName ++ ": argument `"
              ++ k.text ++ "` given twice"]) := by
  refine ⟨?_, ?_, ?_⟩
  · intro s ps hs hps
    have hEvents := events_appendAll hs hps
    refine ⟨hEvents, ?_⟩
    rw [hEvents, List.map_flatMap]
    simp only [map_line_reportAt]
  · intro s ps
    rcases s.count_appendAll_add_skipped ps with
      ⟨hAppended, hCount⟩
    refine ⟨hAppended, ?_⟩
    rw [hAppended, hCount]
  · intro r attributeType args e h
    rcases (r.value_withClause_hasWith_eq_error_iff
        attributeType args e).mp h with
      ⟨k, hRepeated, hError⟩
    have hClause :=
      r.withClause_hasWith_of_firstRepeated attributeType
        hRepeated
    refine ⟨k, hError, ?_, ?_⟩
    · rw [hClause]
    · rw [hClause, List.map_singleton,
        Event.line_rejectingArguments]

/-
  An age that is owned already is appended with a default,
  and then abstract is appended twice.  The log tells that
  all but the first abstract is skipped.
-/
theorem log_of_run_repeated :
    (@appendAll .mixing
        (@ofHistory .mixing (.named "x")
          [@Property.ownsAge .mixing "1" none])
        [@Property.ownsAge .mixing "2" (some (.boolean true)),
          .abstract, .abstract]).events.map Event.line =
      ["TRACE Appending `has age` to $x",
        "TRACE Skipping duplicate property `has age`",
        "TRACE Appending `abstract` to $x",
        "TRACE Appending `abstract` to $x",
        "TRACE Skipping duplicate property `abstract`"] := by
  let _ : Fingerprint := .mixing
  have hBuilt :
      (ofHistory (.named "x")
        [Property.ownsAge "1" none]).Built := by
    apply built_ofHistory
    simp [Property.built_ownsAge]
  have hLines := (log_of_run.1 _
    [Property.ownsAge "2" (some (.boolean true)),
      .abstract, .abstract]
    hBuilt
    (by simp [Property.built_ownsAge,
      Property.Built.abstract])).2
  rw [hLines]
  decide

end Statement

end GraphSchema
