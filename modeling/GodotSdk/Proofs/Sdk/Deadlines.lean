import GodotSdk.Proofs.Naming.Frame
import GodotSdk.Proofs.Script.CodeLines
import GodotSdk.Proofs.Sdk.Acceptance
import GodotSdk.Script.Api

/-!
# Deadlines

The time at which an SDK is generated reaches its scripts in one place: a note on a
deprecation is a warning before the deadline of the deprecation and an error after it.
So the scripts of a later time have the same lines, in which some warnings have become
errors.
-/

namespace GodotSdk

/-! ## Dates that pass -/

/-- What has passed at some time has passed later on. -/
theorem Timestamp.before_of_before {date now later : Timestamp}
    (passed : date.before now = true)
    (order : later.before now = false) : date.before later = true := by
  simp only [before, decide_eq_true_eq, decide_eq_false_iff_not, List.not_lt] at *
  by_contra ahead
  exact List.not_lt.mpr order (List.lt_of_le_of_lt (List.not_lt.mp ahead) passed)

namespace Obsolete

variable {now later : Timestamp} {deadline : Option Timestamp}

/-- A severity changes exactly if its date passes in the meantime. -/
theorem severityAt_ne_iff (order : later.before now = false) :
    severityAt later deadline ≠ severityAt now deadline ↔
      ∃ date ∈ deadline, date.before now = false ∧ date.before later = true := by
  cases deadline with
  | none => simp [severityAt]
  | some date =>
      cases passed : date.before now with
      | true => simp [severityAt, passed, Timestamp.before_of_before passed order]
      | false => cases passes : date.before later <;> simp [severityAt, passed, passes]

end Obsolete

/-- The deprecations of a datatype and of its properties, in the order in which they are
noted. -/
def Datatype.deprecations (datatype : Datatype) : List Deprecation :=
  datatype.deprecation.toList ++ datatype.properties.flatMap fun property =>
    property.deprecation.toList

namespace Script

/-! ## Notes -/

/-- The mark that a severity puts before a note. -/
def obsoleteMark : Severity → String
  | .warning => "[Obsolete: "
  | .error => "[Obsolete(error): "

/-- What a note on a deprecation says after its mark, which is the same at all times. -/
def noteText (deprecation : Deprecation) : String :=
  Obsolete.message ⟨deprecation.replacedBy, .warning⟩ ++ "]"

theorem obsoleteNote_eq (now : Timestamp) (deprecation : Deprecation) :
    obsoleteNote ⟨deprecation.replacedBy,
      Obsolete.severityAt now deprecation.deprecatedAfter⟩ =
      "## " ++ obsoleteMark (Obsolete.severityAt now deprecation.deprecatedAfter) ++
        noteText deprecation := by
  have same (severity : Severity) :
      Obsolete.message ⟨deprecation.replacedBy, severity⟩ =
        Obsolete.message ⟨deprecation.replacedBy, .warning⟩ := rfl
  unfold obsoleteNote
  rw [noteText, same, ← String.append_assoc]
  cases Obsolete.severityAt now deprecation.deprecatedAfter <;> rfl

/-- A line of a script whose time of generation is left open. -/
inductive TimedLine
  /-- A line that is the same at all times. -/
  | settled (line : List Char)
  /-- The line at a depth that notes a deprecation. -/
  | note (depth : Nat) (deprecation : Deprecation)

namespace TimedLine

/-- The line at a time of generation. -/
def chars (now : Timestamp) : TimedLine → List Char
  | .settled line => line
  | .note depth deprecation =>
      (indentation depth).toList ++ "## ".toList
        ++ (obsoleteMark (Obsolete.severityAt now deprecation.deprecatedAfter)).toList
        ++ ((noteText deprecation).toList.splitOn '\n').headD []

/-- The deprecation that a line notes. -/
def deprecation? : TimedLine → Option Deprecation
  | .settled _ => none
  | .note _ deprecation => some deprecation

@[simp] theorem map_settled (now : Timestamp) (lines : List (List Char)) :
    (lines.map settled).map (chars now) = lines := by
  simp [chars, Function.comp_def]

@[simp] theorem filterMap_settled (lines : List (List Char)) :
    (lines.map settled).filterMap deprecation? = [] := by
  simp [deprecation?]

end TimedLine

/-- A note that has several lines depends on the time in its first line only. -/
theorem linesAt_note (depth : Nat) (now : Timestamp) (deprecation : Deprecation) :
    linesAt depth (obsoleteSteps (Obsolete.of? now (some deprecation))) =
      (TimedLine.note depth deprecation).chars now ::
        ((noteText deprecation).toList.splitOn '\n').tail := by
  have marked : '\n' ∉ ("## " ++
      obsoleteMark (Obsolete.severityAt now deprecation.deprecatedAfter)).toList := by
    cases Obsolete.severityAt now deprecation.deprecatedAfter <;> decide
  have filled (mark : String) : "## " ++ mark ≠ "" := by
    intro empty
    simpa using congrArg String.toList empty
  have printed : linesAt depth (obsoleteSteps (Obsolete.of? now (some deprecation))) =
      linesAt depth [.line
        ("## " ++ obsoleteMark (Obsolete.severityAt now deprecation.deprecatedAfter)
        ++ noteText deprecation)] := by
    rw [← obsoleteNote_eq]
    rfl
  rw [printed, linesAt_remark (filled _) marked, TimedLine.chars, String.toList_append]
  simp only [List.append_assoc]

/-- Lines that depend on the time of generation in nothing but the strength of the notes
on some deprecations. -/
def Framed (lines : Timestamp → List (List Char))
    (deprecations : List Deprecation) : Prop :=
  ∃ frame : List TimedLine, (∀ now, lines now = frame.map (TimedLine.chars now)) ∧
    frame.filterMap TimedLine.deprecation? = deprecations

namespace Framed

variable {first second : Timestamp → List (List Char)} {before after : List Deprecation}

theorem settled (lines : List (List Char)) : Framed (fun _ => lines) [] :=
  ⟨lines.map .settled, fun now => (TimedLine.map_settled now lines).symm,
    TimedLine.filterMap_settled lines⟩

theorem append (begins : Framed first before) (follows : Framed second after) :
    Framed (fun now => first now ++ second now) (before ++ after) := by
  obtain ⟨frame, lines, noted⟩ := begins
  obtain ⟨others, more, also⟩ := follows
  refine ⟨frame ++ others, ?_, ?_⟩
  · intro now
    simp only [lines, more, List.map_append]
  · rw [List.filterMap_append, noted, also]

theorem append_settled (begins : Framed first before) (lines : List (List Char)) :
    Framed (fun now => first now ++ lines) before := by
  simpa using begins.append (settled lines)

theorem settled_append (lines : List (List Char)) (follows : Framed second after) :
    Framed (fun now => lines ++ second now) after :=
  (settled lines).append follows

theorem flatMap {α : Type} {lines : Timestamp → α → List (List Char)}
    {noted : α → List Deprecation} {values : List α}
    (each : ∀ value ∈ values, Framed (fun now => lines now value) (noted value)) :
    Framed (fun now => values.flatMap (lines now)) (values.flatMap noted) := by
  induction values with
  | nil => exact settled []
  | cons value rest ih =>
      rw [List.forall_mem_cons] at each
      exact each.1.append (ih each.2)

/-- The lines of the note on an item. -/
theorem note (depth : Nat) (deprecation : Option Deprecation) :
    Framed (fun now => linesAt depth (obsoleteSteps (Obsolete.of? now deprecation)))
      deprecation.toList := by
  cases deprecation with
  | none => exact settled []
  | some deprecation =>
      simp only [linesAt_note]
      refine ⟨.note depth deprecation ::
        ((noteText deprecation).toList.splitOn '\n').tail.map .settled, ?_, ?_⟩
      · intro now
        rw [List.map_cons, TimedLine.map_settled]
      · rw [List.filterMap_cons, TimedLine.filterMap_settled]
        rfl

end Framed

/-! ## Scripts in time -/

section Scripts

variable (sdk : Sdk)

theorem framed_memberSteps (member : Member) (depth : Nat) :
    Framed (fun now => linesAt depth (memberSteps now member))
      member.property.deprecation.toList := by
  simp only [memberSteps, linesAt_append]
  exact ((Framed.note depth member.property.deprecation).settled_append
    _).append_settled _

theorem framed_modelSteps (datatype : Datatype) (depth : Nat) :
    Framed (fun now => linesAt depth (modelSteps { sdk with now := now } datatype))
      datatype.deprecations := by
  have members : Framed
      (fun now => linesAt (depth + 1)
        ((modelMembers sdk datatype).flatMap (memberSteps now)))
      (datatype.properties.flatMap fun property => property.deprecation.toList) := by
    simp only [modelMembers, List.flatMap_map, linesAt_flatMap]
    exact .flatMap fun property _ =>
      framed_memberSteps ⟨sdk.names.sanitizer, property⟩ (depth + 1)
  have same (now : Timestamp) : modelMembers { sdk with now := now } datatype =
      modelMembers sdk datatype := rfl
  simp only [modelSteps, linesAt_append, linesAt_block, List.append_assoc, same]
  exact ((Framed.note depth datatype.deprecation).append
    ((members.append_settled _).settled_append _)).settled_append _

theorem framed_modelsSteps (api : ApiDescription) :
    Framed (fun now =>
      (layout (modelsSteps { sdk with now := now } api)).toList.splitOn '\n')
      (api.datatypes.flatMap Datatype.deprecations) := by
  simp only [splitOn_layout, modelsSteps, linesAt_append, linesAt_flatMap]
  apply Framed.append_settled
  apply Framed.settled_append
  exact .flatMap fun datatype _ => (framed_modelSteps sdk datatype 0).settled_append _

theorem framed_callSteps (api : String) (call : ApiCall) (depth : Nat) :
    Framed (fun now => linesAt depth (callSteps { sdk with now := now } api call))
      call.deprecation.toList := by
  simp only [callSteps, callComments, linesAt_append]
  exact ((Framed.note depth call.deprecation).settled_append _).append_settled _

theorem framed_clientSteps (api : ApiDescription) :
    Framed (fun now =>
      (layout (clientSteps { sdk with now := now } api)).toList.splitOn '\n')
      (api.calls.flatMap fun call => call.deprecation.toList) := by
  simp only [splitOn_layout, clientSteps, linesAt_append, linesAt_flatMap]
  apply Framed.append_settled
  apply Framed.settled_append
  exact .flatMap fun call _ => (framed_callSteps sdk api.name call 0).settled_append _

end Scripts

/-! ## Lines that become stronger -/

/-- A line whose mark of a warning has become the mark of an error. -/
def Escalates (old new : List Char) : Prop :=
  ∃ before after, old = before ++ (obsoleteMark .warning).toList ++ after ∧
    new = before ++ (obsoleteMark .error).toList ++ after

theorem Escalates.length_lt {old new : List Char} (escalates : Escalates old new) :
    old.length < new.length := by
  have longer : (obsoleteMark .warning).toList.length <
      (obsoleteMark .error).toList.length := by decide
  obtain ⟨before, after, rfl, rfl⟩ := escalates
  simp only [List.length_append]
  omega

namespace TimedLine

variable {now later : Timestamp}

/-- No line becomes weaker. -/
theorem eq_or_escalates (order : later.before now = false) (line : TimedLine) :
    line.chars later = line.chars now ∨
      Escalates (line.chars now) (line.chars later) := by
  cases line with
  | settled line => exact .inl rfl
  | note depth deprecation =>
      by_cases changed : Obsolete.severityAt later deprecation.deprecatedAfter =
          Obsolete.severityAt now deprecation.deprecatedAfter
      · left
        rw [chars, chars, changed]
      · right
        obtain ⟨date, due, ahead, passed⟩ :=
          (Obsolete.severityAt_ne_iff order).mp changed
        refine ⟨(indentation depth).toList ++ "## ".toList,
          ((noteText deprecation).toList.splitOn '\n').headD [], ?_, ?_⟩
        · simp [chars, Option.mem_def.mp due, Obsolete.severityAt, ahead]
        · simp [chars, Option.mem_def.mp due, Obsolete.severityAt, passed]

/-- A line changes exactly if it notes a deprecation whose date passes in the
meantime. -/
theorem chars_ne_iff (order : later.before now = false) (line : TimedLine) :
    line.chars later ≠ line.chars now ↔
      ∃ deprecation ∈ line.deprecation?, ∃ date ∈ deprecation.deprecatedAfter,
        date.before now = false ∧ date.before later = true := by
  cases line with
  | settled line => simp [chars, deprecation?]
  | note depth deprecation =>
      have marks (first second : Severity) :
          (obsoleteMark first).toList = (obsoleteMark second).toList ↔
            first = second := by
        cases first <;> cases second <;> decide
      have same : (note depth deprecation).chars later =
          (note depth deprecation).chars now ↔
          Obsolete.severityAt later deprecation.deprecatedAfter =
            Obsolete.severityAt now deprecation.deprecatedAfter := by
        rw [chars, chars, List.append_left_inj, List.append_right_inj, marks]
      rw [ne_eq, same, ← ne_eq, Obsolete.severityAt_ne_iff order]
      simp [deprecation?]

end TimedLine

/-- How the lines of a script change while time goes by. There are as many as before.
Each is the same, or its mark of a warning has become the mark of an error, and in no
line it is the other way round. There is one line for each of the deprecations, in
order, and a line is another one afterwards exactly if the date of its deprecation has
passed in the meantime. -/
structure Ages (now later : Timestamp) (deprecations : List Deprecation)
    (old new : List (List Char)) : Prop where
  count : new.length = old.length
  lines : List.Forall₂ (fun before after => after = before ∨
    Escalates before after) old new
  oneWay : List.Forall₂ (fun before after => ¬ Escalates after before) old new
  notes : ∃ frame : List TimedLine, old = frame.map (TimedLine.chars now) ∧
    new = frame.map (TimedLine.chars later) ∧
    frame.filterMap TimedLine.deprecation? = deprecations ∧
    ∀ line ∈ frame, line.chars later ≠ line.chars now ↔
      ∃ deprecation ∈ line.deprecation?, ∃ date ∈ deprecation.deprecatedAfter,
        date.before now = false ∧ date.before later = true

theorem Framed.ages {lines : Timestamp → List (List Char)}
    {deprecations : List Deprecation} {now later : Timestamp}
    (framed : Framed lines deprecations) (order : later.before now = false) :
    Ages now later deprecations (lines now) (lines later) := by
  obtain ⟨frame, printed, noted⟩ := framed
  have grows : List.Forall₂ (fun before after => after = before ∨
      Escalates before after) (lines now) (lines later) := by
    simp only [printed, List.forall₂_map_left_iff, List.forall₂_map_right_iff,
      List.forall₂_same]
    exact fun line _ => line.eq_or_escalates order
  refine ⟨grows.length_eq.symm, grows, grows.imp ?_, frame, printed now, printed later,
    noted, ?_⟩
  · rintro before after (rfl | stronger) weaker
    · exact Nat.lt_irrefl _ weaker.length_lt
    · exact Nat.lt_asymm stronger.length_lt weaker.length_lt
  · exact fun line _ => line.chars_ne_iff order

end Script

namespace Sdk

open Script (Ages)

variable {config : Config} {now later : Timestamp} {sdk : Sdk} {api : ApiDescription}
  {accepted : Sanitized}

/-- Sanitizing leaves the deprecations of datatypes and properties as they are. -/
theorem deprecations_datatypes (accepts : sdk.accept api = .ok accepted) :
    accepted.api.datatypes.flatMap Datatype.deprecations =
      api.datatypes.flatMap Datatype.deprecations := by
  rw [eq_sanitize_of_accept accepts, Sanitizer.sanitize, List.flatMap_map]
  apply List.flatMap_congr
  intro datatype _
  simp [Sanitizer.datatype, Sanitizer.property, Datatype.deprecations, List.flatMap_map]

theorem deprecations_calls (accepts : sdk.accept api = .ok accepted) :
    (accepted.api.calls.flatMap fun call => call.deprecation.toList) =
      api.calls.flatMap fun call => call.deprecation.toList := by
  rw [eq_sanitize_of_accept accepts]
  rfl

/-- The scripts of an API that is accepted at one time are made at any later time as
well, and are the same but for the notes on items whose dates have passed in the
meantime. These notes have become errors. -/
theorem scripts_age (made : Sdk.new config now = .ok sdk)
    (accepts : sdk.accept api = .ok accepted) (order : later.before now = false) :
    ∃ aged, Sdk.new config later = .ok aged ∧ aged.accept api = .ok accepted ∧
      Ages now later (api.datatypes.flatMap Datatype.deprecations)
        ((sdk.modelsFile accepted).text.toList.splitOn '\n')
          ((aged.modelsFile accepted).text.toList.splitOn '\n') ∧
      Ages now later (api.calls.flatMap fun call => call.deprecation.toList)
        ((sdk.clientFile accepted).text.toList.splitOn '\n')
          ((aged.clientFile accepted).text.toList.splitOn '\n') := by
  obtain ⟨identifier, sanitizer, sanitizes, rfl⟩ := new_eq_ok_iff.mp made
  have again : Sdk.new config later = .ok ⟨config, ⟨sanitizer⟩, later⟩ :=
    new_eq_ok_iff.mpr ⟨identifier, sanitizer, sanitizes, rfl⟩
  have models :=
    (Script.framed_modelsSteps ⟨config, ⟨sanitizer⟩, now⟩ accepted.api).ages order
  have client :=
    (Script.framed_clientSteps ⟨config, ⟨sanitizer⟩, now⟩ accepted.api).ages order
  rw [deprecations_datatypes accepts] at models
  rw [deprecations_calls accepts] at client
  exact ⟨⟨config, ⟨sanitizer⟩, later⟩, again, accepts, models, client⟩

/-- The first moment of a year. -/
def newYear (year : Int) (valid : isDate year 1 1 = true) : Timestamp :=
  ⟨⟨year, 1, 1, valid⟩, 0, 0, rfl⟩

/-- Items that are deprecated after a time that has passed, from now on, from next year
on, and without a date. One of the notes goes on after its line. -/
def datedItems : ApiDescription where
  name := "Cloud"
  datatypes := [
    ⟨"Item", [
      ⟨"Name", .string, none, false, none,
        some ⟨some "Title\n[Obsolete: ", standard.now⟩, none⟩,
      ⟨"Price", .int32, none, true, none, some ⟨none, none⟩, none⟩],
      some "[Obsolete: ", some ⟨none, some (newYear 2020 (by decide))⟩⟩]
  calls := [
    ⟨"GetItem", "/Cloud/GetItem", none, some "Item", .sessionTicket, none,
      some ⟨some "GetItems", some (newYear 2025 (by decide))⟩⟩]
  errorList := []
  errors := .empty

theorem scripts_age_datedItems :
    Sdk.new .standard standard.now = .ok standard ∧
      standard.accept datedItems = .ok (standard.names.sanitizer.sanitize datedItems) ∧
      (newYear 2025 (by decide)).before standard.now = false ∧
      ∃ aged, Sdk.new .standard (newYear 2025 (by decide)) = .ok aged ∧
        Ages standard.now (newYear 2025 (by decide))
          (datedItems.datatypes.flatMap Datatype.deprecations)
          ((standard.modelsFile
            (standard.names.sanitizer.sanitize datedItems)).text.toList.splitOn '\n')
          ((aged.modelsFile (standard.names.sanitizer.sanitize
            datedItems)).text.toList.splitOn '\n') := by
  have accepts : standard.accept datedItems =
      .ok (standard.names.sanitizer.sanitize datedItems) :=
    accept_standard (by decide +kernel)
  have order : (newYear 2025 (by decide)).before standard.now = false := by decide
  obtain ⟨aged, again, _, models, _⟩ := scripts_age new_standard accepts order
  exact ⟨new_standard, accepts, order, aged, again, models⟩

end Sdk

end GodotSdk
