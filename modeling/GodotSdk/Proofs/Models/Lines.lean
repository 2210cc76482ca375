import GodotSdk.Proofs.Models.Writing
import GodotSdk.Proofs.Script.Layout
import GodotSdk.Proofs.Script.Quoted
import GodotSdk.Proofs.Sdk.Remarks

/-!
# Lines of statements

The statements of a member hold its key as a string literal, which is on one line
whatever the key is. So a member is filled by two lines and written by one as long as
its own name is on one line, and that the name of every member of an accepted API is.
-/

namespace GodotSdk.Script

/-- The number of lines of a text. -/
def lineCount (text : String) : Nat :=
  text.toList.count '\n' + 1

namespace Member

variable (member : Member)

/-- The text of a statement ends with the last line that is printed for it. -/
theorem toList_statementText {statement : Statement} {before : List String}
    {last : String} (entries : entriesOf 0 statement.steps = before ++ [last]) :
    (statementText statement).toList = (printed before).toList ++ last.toList := by
  have chars : (printed (before ++ [last])).toList = (printed before).toList ++
      last.toList ++ ['\n'] := by
    simp [printed_cons, String.toList_append]
  rw [statementText, layout_eq, entries, String.toList_ofList, chars,
    List.dropLast_concat]

theorem statementText_load :
    statementText member.load =
      "if data.has(" ++ quote member.key ++ "):\n    " ++ member.name ++ " = data[" ++
        quote member.key ++ "]" := by
  have entries : entriesOf 0 member.load.steps =
      [entry 0 ("if " ++ ("data.has(" ++ quote member.key ++ ")") ++ ":")] ++
        [entry 1 (member.name ++ " = " ++ ("data[" ++ quote member.key ++ "]"))] := by
    simp [load, Statement.when, Statement.steps, Statement.branchSteps,
      Statement.stepsAll, branchWord, Expr.render, Expr.renderAll, entriesOf,
      Step.entries]
  apply String.toList_injective
  rw [toList_statementText entries]
  simp [printed_cons, entry, indentation]

theorem statementText_store :
    statementText member.store = "result[" ++ quote member.key ++ "] = " ++
      member.name := by
  have entries : entriesOf 0 member.store.steps =
      [] ++ [entry 0 ("result[" ++ quote member.key ++ "]" ++ " = " ++ member.name)] :=
        by
    simp [store, Statement.steps, Expr.render, entriesOf, Step.entries]
  apply String.toList_injective
  rw [toList_statementText entries]
  simp [entry, indentation]

theorem count_quote (text : String) : (quote text).toList.count '\n' = 0 :=
  List.count_eq_zero.mpr (not_mem_quote (by decide) text)

/-- The key of a member takes no line of its own, so the lines that fill the member are
two. -/
theorem lineCount_load :
    lineCount (statementText member.load) = member.name.toList.count '\n' + 2 := by
  rw [lineCount, statementText_load]
  simp [count_quote]

theorem lineCount_store :
    lineCount (statementText member.store) = member.name.toList.count '\n' + 1 := by
  rw [lineCount, statementText_store]
  simp [count_quote]

end Member

/-- The name of a member of an accepted API is on one line. -/
theorem feedless_name_of_accept {sdk : Sdk} {api : ApiDescription}
    {accepted : Sanitized} (accepts : sdk.accept api = .ok accepted)
    {datatype : Datatype} (listed : datatype ∈ accepted.api.datatypes)
    {member : Member} (declared : member ∈ modelMembers sdk datatype) :
    '\n' ∉ member.name.toList := by
  obtain ⟨property, within, rfl⟩ := List.mem_map.mp declared
  have named :=
    ((Sdk.acceptable_of_accept accepts).datatypes datatype listed).identifiers
      property within
  have feedless : '\n' ∉ property.name.toList := feedless_of_isIdentifier named
  rw [Member.name, Sanitizer.propertyName]
  split
  · exact feedless_append feedless (by decide)
  · exact feedless

/-- Literals carry every text: each is read back as its text with nothing of what
follows it, and is on one line. So the statements of a member have two lines and one,
apart from line feeds in its own name, of which there are none in an accepted API; and
members with different keys are told apart by their literals. -/
theorem literals_carry_keys :
    (∀ text rest, readLiteral (quote text ++ rest) = some (text, rest)) ∧
      (∀ text, ∀ char ∈ ['\n', '\r', '\t'], char ∉ (quote text).toList) ∧
      (∀ member : Member, lineCount (Member.statementText member.load) =
        member.name.toList.count '\n' + 2 ∧
        lineCount (Member.statementText member.store) =
          member.name.toList.count '\n' + 1) ∧
      (∀ (sdk : Sdk) (api : ApiDescription) (accepted : Sanitized),
        sdk.accept api = .ok accepted →
        ∀ datatype ∈ accepted.api.datatypes, ∀ member ∈ modelMembers sdk datatype,
          lineCount (Member.statementText member.load) = 2 ∧
            lineCount (Member.statementText member.store) = 1) ∧
      ∀ left right : Member, left.key ≠ right.key →
        quote left.key ≠ quote right.key := by
  refine ⟨readLiteral_quote, fun text char member => not_mem_quote member text,
    fun member => ⟨member.lineCount_load, member.lineCount_store⟩, ?_,
    fun _ _ => quote_injective.ne⟩
  intro sdk api accepted accepts datatype listed member declared
  have feedless :=
    List.count_eq_zero.mpr (feedless_name_of_accept accepts listed declared)
  rw [member.lineCount_load, member.lineCount_store, feedless]
  exact ⟨rfl, rfl⟩

/-- Keys with quotes, with backslashes at their ends, with line feeds, and with what
looks like an escape. -/
def awkwardKeys : ApiDescription :=
  textsClass [("Said", some "say \"hi\"\\"), ("Lines", some "a\nb\r\n\tc"),
    ("Escaped", some "a\\nb\\\\\"")]

theorem literals_carry_keys_awkwardKeys :
    Sdk.standard.accept awkwardKeys =
      .ok (Sdk.standard.names.sanitizer.sanitize awkwardKeys) ∧
      readLiteral (quote "say \"hi\"\\" ++ "\"]") = some ("say \"hi\"\\", "\"]") ∧
      ∀ datatype ∈ (Sdk.standard.names.sanitizer.sanitize awkwardKeys).api.datatypes,
        ∀ member ∈ modelMembers .standard datatype,
          lineCount (Member.statementText member.load) = 2 ∧
            lineCount (Member.statementText member.store) = 1 := by
  have accepts : Sdk.standard.accept awkwardKeys =
      .ok (Sdk.standard.names.sanitizer.sanitize awkwardKeys) :=
    Sdk.accept_standard (by decide +kernel)
  obtain ⟨readBack, -, -, lines, -⟩ := literals_carry_keys
  exact ⟨accepts, readBack _ _, lines _ _ _ accepts⟩

end GodotSdk.Script
