import GodotSdk.Proofs.Script.Declarations
import GodotSdk.Proofs.Sdk.Remarks
import GodotSdk.Sdk.Files
import Mathlib.Data.List.Nodup
import Mathlib.Data.Option.Basic
import Std.Data.String.ToInt

/-!
# The error catalog

The errors script of an API has an enumeration with an entry for each listed error that
has a code and a name that can be declared, unless there are none. The list is not
checked for names that occur twice, and what occurs twice is declared twice. Else the
entries are the listed errors, each once, in the order of the list.
-/

namespace GodotSdk

namespace Script

/-! ## Enumerations -/

/-- The name and the value in a line of an enumeration. -/
def enumMember? (line : List Char) : Option (String × Int) := do
  let (name, rest) := Text.readName (Text.trimStart line)
  let rest ← " = ".toList.isPrefixOf? rest
  let digits ← ",".toList.isSuffixOf? rest
  let value ← (String.ofList digits).toInt?
  return (String.ofList name, value)

/-- The line that opens an enumeration. -/
def enumOpening (name : String) : List Char :=
  ("enum " ++ name ++ " \x7b").toList

/-- The line that closes it. -/
def enumClosing : List Char :=
  "\x7d".toList

/-- The lines of an enumeration in the code of a text, each read as an entry, if the
text has the enumeration. -/
def enumeration? (name text : String) : Option (List (Option (String × Int))) :=
  match (codeLines text.toList).dropWhile (· != enumOpening name) with
  | [] => none
  | _ :: body => some ((body.takeWhile (· != enumClosing)).map enumMember?)

section

variable {name text : String}

theorem enumeration?_eq_none (absent : enumOpening name ∉ codeLines text.toList) :
    enumeration? name text = none := by
  have nothing : (codeLines text.toList).dropWhile (· != enumOpening name) = [] := by
    rw [List.dropWhile_eq_nil_iff]
    intro line among
    exact bne_iff_ne.mpr (ne_of_mem_of_not_mem among absent)
  rw [enumeration?, nothing]

theorem enumeration?_of_parts {before body after : List (List Char)}
    (parts : codeLines text.toList = before ++ enumOpening name ::
      (body ++ enumClosing :: after))
    (earlier : enumOpening name ∉ before)
    (inside : enumClosing ∉ body) :
    enumeration? name text = some (body.map enumMember?) := by
  have skipped : ∀ line ∈ before, (line != enumOpening name) = true :=
    fun line among => bne_iff_ne.mpr (ne_of_mem_of_not_mem among earlier)
  have taken : ∀ line ∈ body, (line != enumClosing) = true :=
    fun line among => bne_iff_ne.mpr (ne_of_mem_of_not_mem among inside)
  simp [enumeration?, parts, List.dropWhile_append_of_pos skipped,
    List.takeWhile_append_of_pos taken]

end

/-- The line for an error code. -/
def errorCodeLine (code : String × Int64) : List Char :=
  (entry 1 (code.1 ++ " = " ++ toString code.2.toInt ++ ",")).toList

section

variable {code : String × Int64}

theorem errorCodeLine_eq (code : String × Int64) :
    errorCodeLine code = (indentation 1).toList ++
      (code.1.toList ++
        (" = ".toList ++ ((toString code.2.toInt).toList ++ ",".toList))) := by
  have printable : code.1 ++ " = " ++ toString code.2.toInt ++ "," ≠ "" := by
    intro empty
    have nothing := congrArg String.toList empty
    simp at nothing
  rw [errorCodeLine, toList_entry printable]
  simp only [String.toList_append, List.append_assoc]

theorem trimStart_errorCodeLine (identifier : Text.isIdentifier code.1 = true) :
    Text.trimStart (errorCodeLine code) =
      code.1.toList ++
        (" = ".toList ++ ((toString code.2.toInt).toList ++ ",".toList)) := by
  have indented : ∀ char ∈ (indentation 1).toList, Text.isBlank char = true :=
    fun char member => (isBlank_indentation member).1
  rw [errorCodeLine_eq, Text.trimStart, List.dropWhile_append_of_pos indented]
  exact Text.trimStart_append_of_isIdentifier identifier _

/-- The line for an error code is read as its name and its id. -/
theorem enumMember?_errorCodeLine (identifier : Text.isIdentifier code.1 = true) :
    enumMember? (errorCodeLine code) = some (code.1, code.2.toInt) := by
  have named : Text.readName (Text.trimStart (errorCodeLine code)) =
      (code.1.toList, " = ".toList ++ ((toString code.2.toInt).toList ++ ",".toList)) :=
        by
    rw [trimStart_errorCodeLine identifier]
    apply Text.readName_append identifier
    simp
  have assigned : " = ".toList.isPrefixOf?
      (" = ".toList ++ ((toString code.2.toInt).toList ++ ",".toList)) =
      some ((toString code.2.toInt).toList ++ ",".toList) :=
    List.isPrefixOf?_eq_some_iff_append_eq.mpr rfl
  have ended : ",".toList.isSuffixOf? ((toString code.2.toInt).toList ++ ",".toList) =
      some (toString code.2.toInt).toList :=
    List.isSuffixOf?_eq_some_iff_append_eq.mpr rfl
  have value : (toString code.2.toInt).toInt? = some code.2.toInt :=
    Int.toInt?_repr code.2.toInt
  simp only [enumMember?, named, assigned, ended, value, String.ofList_toList,
    Option.bind_eq_bind, Option.bind_some, Option.pure_def]

/-- An identifier begins with a character that is seen and opens no comment. -/
theorem exists_head_of_isIdentifier {name : String}
    (identifier : Text.isIdentifier name = true) :
    ∃ mark, name.toList.head? = some mark ∧ Text.isBlank mark = false ∧ mark ≠ '#' := by
  cases chars : name.toList with
  | nil => simp [Text.isIdentifier, Text.isIdentifierText, chars] at identifier
  | cons mark others =>
      have inside := Text.continuesIdentifier_of_mem identifier mark (by simp [chars])
      refine ⟨mark, rfl, Text.isBlank_of_continuesIdentifier inside, ?_⟩
      rintro rfl
      simp at inside

theorem feedless_toString (value : Int) : '\n' ∉ (toString value).toList := by
  have natural (number : Nat) : '\n' ∉ number.repr.toList := by
    intro member
    rw [Nat.toList_repr] at member
    exact absurd (Nat.isDigit_of_mem_toDigits (by decide) (by decide) member)
      (by decide)
  rw [Int.toString_eq_repr, Int.repr_eq_if]
  split
  · exact natural _
  · exact feedless_append (by decide) (natural _)

theorem errorCodeLine_ne_closing (code : String × Int64) :
    enumClosing ≠ errorCodeLine code := by
  intro same
  have first := congrArg List.head? same
  rw [errorCodeLine_eq] at first
  exact absurd first (by simp [indentation, enumClosing])

end

/-! ## The code of the errors script -/

theorem codeAt_indented (depth : Nat) (body : List Step) :
    codeAt depth [.indented body] = codeAt (depth + 1) body := by
  simp [codeAt, entriesOf_cons, Step.entries]

/-- The line of an error code is code. -/
theorem codeAt_errorCodeLine {code : String × Int64}
    (identifier : Text.isIdentifier code.1 = true) :
    codeAt 1 [.line (code.1 ++ " = " ++ toString code.2.toInt ++ ",")] =
      [errorCodeLine code] := by
  obtain ⟨mark, first, visible, plain⟩ := exists_head_of_isIdentifier identifier
  have begins : (code.1 ++ " = " ++ toString code.2.toInt ++ ",").toList.head? =
      some mark := by
    simp only [String.toList_append, List.append_assoc, List.head?_append, first,
      Option.some_or]
  have named : '\n' ∉ (code.1 ++ " = ").toList :=
    feedless_append (feedless_of_isIdentifier identifier) (by decide)
  have valued := feedless_append named (feedless_toString code.2.toInt)
  exact codeAt_line_of_mark begins visible plain (feedless_append valued (by decide)) 1

theorem codeAt_errorCodeLines {codes : List (String × Int64)}
    (identifiers : ∀ code ∈ codes, Text.isIdentifier code.1 = true) :
    codeAt 1 (codes.map fun (name, id) =>
      .line (name ++ " = " ++ toString id.toInt ++ ",")) = codes.map errorCodeLine := by
  induction codes with
  | nil => exact codeAt_nil 1
  | cons code rest ih =>
      obtain ⟨first, others⟩ := List.forall_mem_cons.mp identifiers
      rw [List.map_cons, codeAt_cons, ih others]
      exact congrArg (· ++ rest.map errorCodeLine) (codeAt_errorCodeLine first)

theorem codeAt_errorCodeSteps {codes : List (String × Int64)}
    (identifiers : ∀ code ∈ codes, Text.isIdentifier code.1 = true) :
    codeAt 0 (errorCodeSteps codes) =
      if codes = [] then [] else [] :: enumOpening "ErrorCode" ::
        (codes.map errorCodeLine ++ [enumClosing]) := by
  have blank : codeAt 0 [.blank] = [[]] := by decide
  have opening : codeAt 0 [.line "enum ErrorCode \x7b"] =
      [enumOpening "ErrorCode"] := by decide
  have closing : codeAt 0 [.line "\x7d"] = [enumClosing] := by decide
  cases codes with
  | nil => exact codeAt_nil 0
  | cons code rest =>
      rw [errorCodeSteps, List.isEmpty_cons, if_neg (by decide),
        if_neg (List.cons_ne_nil code rest), codeAt_cons, blank, codeAt_cons, opening,
        codeAt_cons, codeAt_indented, codeAt_errorCodeLines identifiers, closing]
      rfl

/-- Lines that begin with other characters open no enumeration. -/
theorem not_mem_of_heads {name : String} {lines : List (List Char)}
    (heads : lines.all (fun line => line.head? != some 'e') = true) :
    enumOpening name ∉ lines := by
  intro among
  have other := List.all_eq_true.mp heads (enumOpening name) among
  simp [enumOpening] at other

/-- The first lines of a script do not look like an enumeration. -/
theorem not_mem_codeAt_scriptHeader (description : String) {className : String}
    (identifier : Text.isIdentifier className = true) :
    enumOpening "ErrorCode" ∉ codeAt 0 (scriptHeader description className) := by
  have banners : codeAt 0 [.line banner] = [] :=
    codeAt_line_of_comment (isComment_ofList (by decide))
      (feedless_ofList (by decide)) 0
  have declaring : codeAt 0 [.line ("class_name " ++ className)] =
      [(entry 0 ("class_name " ++ className)).toList] := by
    have begins : ("class_name " ++ className).toList.head? = some 'c' := by simp
    have word : '\n' ∉ "class_name ".toList := by decide
    have single := feedless_append word (feedless_of_isIdentifier identifier)
    exact codeAt_line_of_mark begins (by decide) (by decide) single 0
  have extending : enumOpening "ErrorCode" ∉ codeAt 0 [.line "extends RefCounted"] := by
    decide
  have first : (entry 0 ("class_name " ++ className)).toList.head? = some 'c' := by
    simp [entry, indentation]
  rw [scriptHeader, codeAt_cons, codeAt_doc, codeAt_cons, banners, codeAt_cons,
    declaring, List.nil_append, List.nil_append, List.mem_append, not_or]
  refine ⟨not_mem_of_heads ?_, extending⟩
  simp only [List.all_cons, first, List.all_nil, Bool.and_true]
  decide

/-- The class of failed calls does not look like an enumeration. -/
theorem heads_errorClassSteps {names : SdkNames}
    (identifier : Text.isIdentifier names.brand = true) :
    (codeAt 0 (errorClassSteps names)).all (fun line => line.head? != some 'e') =
      true := by
  have begins : ("class " ++ names.errorClass ++ " extends RefCounted" ++
      ":").toList.head? = some 'c' := by simp
  have single :
      '\n' ∉ ("class " ++ names.errorClass ++ " extends RefCounted" ++ ":").toList := by
    have named : '\n' ∉ names.errorClass.toList :=
      feedless_append (feedless_of_isIdentifier identifier) (by decide)
    have opened : '\n' ∉ ("class " ++ names.errorClass).toList :=
      feedless_append (by decide) named
    exact feedless_append (feedless_append opened (by decide)) (by decide)
  have header :
      (entry 0 ("class " ++ names.errorClass ++ " extends RefCounted" ++
        ":")).toList.head? = some 'c' := by
    simp [entry, indentation]
  rw [errorClassSteps, codeAt_cons, codeAt_doc, codeAt_block, codeAt_line_of_mark begins
    (by decide) (by decide) single, List.nil_append, List.all_append, Bool.and_eq_true]
  constructor
  · simp only [List.all_cons, header, List.all_nil, Bool.and_true]
    decide
  · -- The characters of the literals are taken out first, since the kernel is slow to
    -- decode them.
    have split (depth : Nat) (first second : Step) (rest : List Step) :=
      codeAt_cons depth first (second :: rest)
    simp (disch := decide) only [split, codeAt_doc, codeAt_block, codeAt_line,
      toList_entry, String.toList_append, indentation]
    repeat rw [String.toList_ofList]
    decide +kernel

/-- The names that an errors script declares for codes can be declared. -/
theorem isIdentifier_of_mem_errorCodes {catalog : Option ApiDescription}
    {code : String × Int64}
    (among : code ∈ errorCodes catalog) : Text.isIdentifier code.1 = true := by
  cases catalog with
  | none => cases among
  | some api =>
      obtain ⟨name, listed, written⟩ := List.mem_filterMap.mp among
      obtain ⟨entry, found, written⟩ := Option.bind_eq_some_iff.mp written
      split at written
      · next identifier =>
          obtain rfl := Option.some.inj written
          exact identifier
      · cases written

/-- Around its codes, an errors script has nothing that looks like the enumeration. -/
theorem exists_around_errorCodes {sdk : Sdk}
    (identifier : Text.isIdentifier sdk.names.brand = true)
    (catalog : Option ApiDescription) :
    ∃ before after, codeLines (layout (errorsSteps sdk catalog)).toList =
        before ++ (codeAt 0 (errorCodeSteps (errorCodes catalog)) ++ after) ∧
      enumOpening "ErrorCode" ∉ before ∧ enumOpening "ErrorCode" ∉ after := by
  have named : Text.isIdentifier sdk.names.errorsClass = true :=
    Text.isIdentifier_append identifier (by decide)
  have blanks : enumOpening "ErrorCode" ∉ codeAt 0 [.blank, .blank] := by decide
  have errorClass : enumOpening "ErrorCode" ∉ codeAt 0 (errorClassSteps sdk.names) :=
    not_mem_of_heads (heads_errorClassSteps identifier)
  have last : enumOpening "ErrorCode" ∉ [[]] := by decide
  refine ⟨_, codeAt 0 [.blank, .blank] ++
    (codeAt 0 (errorClassSteps sdk.names) ++ [[]]), ?_, not_mem_codeAt_scriptHeader
      ("Errors reported by " ++ sdk.names.brand ++ " API calls.") named, ?_⟩
  · rw [codeLines_layout, errorsSteps, codeAt_append, codeAt_append, codeAt_append]
    simp only [List.append_assoc]
  · simp only [List.mem_append, not_or]
    exact ⟨blanks, errorClass, last⟩

/-- The enumeration in an errors script has the codes, and it is there if there are
any. -/
theorem enumeration?_errorsSteps {sdk : Sdk}
    (identifier : Text.isIdentifier sdk.names.brand = true)
    (catalog : Option ApiDescription) :
    enumeration? "ErrorCode" (layout (errorsSteps sdk catalog)) =
      if errorCodes catalog = [] then none
      else some ((errorCodes catalog).map fun code => some (code.1, code.2.toInt)) := by
  have identifiers : ∀ code ∈ errorCodes catalog, Text.isIdentifier code.1 = true :=
    fun code among => isIdentifier_of_mem_errorCodes among
  obtain ⟨before, after, code, earlier, later⟩ :=
    exists_around_errorCodes identifier catalog
  rw [codeAt_errorCodeSteps identifiers] at code
  split
  · next nothing =>
      rw [if_pos nothing, List.nil_append] at code
      apply enumeration?_eq_none
      rw [code, List.mem_append, not_or]
      exact ⟨earlier, later⟩
  · next listed =>
      have parts : codeLines (layout (errorsSteps sdk catalog)).toList =
          (before ++ [[]]) ++ enumOpening "ErrorCode" ::
            ((errorCodes catalog).map errorCodeLine ++ enumClosing :: after) := by
        rw [code, if_neg listed]
        simp only [List.append_assoc, List.cons_append, List.nil_append]
      have blank : enumOpening "ErrorCode" ∉ [[]] := by decide
      have inside : enumClosing ∉ (errorCodes catalog).map errorCodeLine := by
        intro among
        obtain ⟨code, _, same⟩ := List.mem_map.mp among
        exact errorCodeLine_ne_closing code same.symm
      rw [enumeration?_of_parts parts (List.not_mem_append earlier blank) inside,
        List.map_map, Option.some.injEq]
      apply List.map_congr_left
      intro code among
      exact enumMember?_errorCodeLine (identifiers code among)

end Script

/-! ## Errors that an API lists -/

/-- An error that an API lists, gives an id and names as can be declared. -/
structure ApiDescription.Lists (api : ApiDescription) (name : String) (id : Int) :
    Prop where
  listed : name ∈ api.errorList
  coded : ∃ code, api.errors.get? name = some code ∧ code.id.toInt = id
  identifier : Text.isIdentifier name = true

/-- Entries that are the errors that an API lists, each once, in the order in which the
names first occur. -/
structure ApiDescription.EnumeratedBy (api : ApiDescription)
    (entries : List (String × Int)) : Prop where
  members : ∀ name id, (name, id) ∈ entries ↔ api.Lists name id
  once : (entries.map Prod.fst).Nodup
  ordered : (entries.map Prod.fst).Pairwise fun first second =>
    api.errorList.idxOf first ≤ api.errorList.idxOf second

/-- Elements of a list that are selected once each come in the order of their first
places. -/
theorem pairwise_idxOf_filter {α : Type} [DecidableEq α] {select : α → Bool}
    {list : List α} (once : (list.filter select).Nodup) :
    (list.filter select).Pairwise fun first second =>
      list.idxOf first ≤ list.idxOf second := by
  induction list with
  | nil => exact List.Pairwise.nil
  | cons value rest ih =>
      -- The places of later elements move by one, if the first element is not selected
      -- again.
      have moved (apart : value ∉ rest.filter select)
          (others : (rest.filter select).Nodup) :
          (rest.filter select).Pairwise fun first second =>
            (value :: rest).idxOf first ≤ (value :: rest).idxOf second := by
        apply (ih others).imp_of_mem
        intro first second among also order
        rw [List.idxOf_cons_ne rest (ne_of_mem_of_not_mem among apart).symm,
          List.idxOf_cons_ne rest (ne_of_mem_of_not_mem also apart).symm]
        exact Nat.succ_le_succ order
      cases selected : select value with
      | true =>
          rw [List.filter_cons_of_pos selected, List.nodup_cons] at once
          rw [List.filter_cons_of_pos selected, List.pairwise_cons]
          refine ⟨?_, moved once.1 once.2⟩
          intro other _
          rw [List.idxOf_cons_self]
          exact Nat.zero_le _
      | false =>
          have skipped : ¬ select value = true := by simp [selected]
          rw [List.filter_cons_of_neg skipped] at once ⊢
          exact moved (fun among => skipped (List.mem_filter.mp among).2) once

namespace Script

variable {api : ApiDescription}

/-- Whether an error of a name that is listed gets a code in the errors script. -/
def declaresError (api : ApiDescription) (name : String) : Bool :=
  (api.errors.get? name).isSome && Text.isIdentifier name

/-- The codes in an errors script, as they are read from it. -/
def writtenCodes (api : ApiDescription) : List (String × Int) :=
  (errorCodes (some api)).map fun code => (code.1, code.2.toInt)

theorem mem_writtenCodes_iff {name : String} {id : Int} :
    (name, id) ∈ writtenCodes api ↔ api.Lists name id := by
  simp only [writtenCodes, errorCodes, List.mem_map, List.mem_filterMap,
    Option.bind_eq_some_iff]
  constructor
  · rintro ⟨written, ⟨listed, among, code, found, declared⟩, same⟩
    split at declared
    · next identifier =>
        obtain rfl := Option.some.inj declared
        rw [Prod.mk.injEq] at same
        obtain ⟨rfl, rfl⟩ := same
        exact ⟨among, ⟨code, found, rfl⟩, identifier⟩
    · cases declared
  · rintro ⟨listed, ⟨code, found, rfl⟩, identifier⟩
    exact ⟨(name, code.id), ⟨name, listed, code, found, if_pos identifier⟩, rfl⟩

/-- The names in an errors script are those in the list that get a code, and they are as
often there as in the list. -/
theorem names_writtenCodes (api : ApiDescription) :
    (writtenCodes api).map Prod.fst = api.errorList.filter (declaresError api) := by
  rw [writtenCodes, errorCodes, List.map_map, List.map_filterMap,
    ← List.filterMap_eq_filter]
  apply List.filterMap_congr
  intro name _
  cases found : api.errors.get? name <;> cases identifier : Text.isIdentifier name <;>
    simp [declaresError, Option.guard, found, identifier]

theorem declaresError_iff {name : String} (listed : name ∈ api.errorList) :
    declaresError api name = true ↔ ∃ id, api.Lists name id := by
  rw [declaresError, Bool.and_eq_true, Option.isSome_iff_exists]
  constructor
  · rintro ⟨⟨code, found⟩, identifier⟩
    exact ⟨code.id.toInt, listed, ⟨code, found, rfl⟩, identifier⟩
  · rintro ⟨id, _, ⟨code, found, _⟩, identifier⟩
    exact ⟨⟨code, found⟩, identifier⟩

/-- The codes in an errors script are the listed errors, each once and in order, exactly
if no error is listed twice. -/
theorem enumeratedBy_writtenCodes_iff :
    api.EnumeratedBy (writtenCodes api) ↔ ∀ name id, api.Lists name id →
      api.errorList.count name = 1 := by
  have nodup : ((writtenCodes api).map Prod.fst).Nodup ↔
      ∀ name id, api.Lists name id → api.errorList.count name = 1 := by
    rw [names_writtenCodes, List.nodup_iff_count_eq_one]
    constructor
    · intro once name id lists
      have declared := (declaresError_iff lists.listed).mpr ⟨id, lists⟩
      rw [← List.count_filter declared]
      exact once name (List.mem_filter.mpr ⟨lists.listed, declared⟩)
    · intro once name among
      obtain ⟨listed, declared⟩ := List.mem_filter.mp among
      obtain ⟨id, lists⟩ := (declaresError_iff listed).mp declared
      rw [List.count_filter declared]
      exact once name id lists
  rw [← nodup]
  constructor
  · exact ApiDescription.EnumeratedBy.once
  · intro once
    refine ⟨fun name id => mem_writtenCodes_iff, once, ?_⟩
    rw [names_writtenCodes] at once ⊢
    exact pairwise_idxOf_filter once

end Script

namespace Sdk

open Script (enumeration? writtenCodes enumeratedBy_writtenCodes_iff
  mem_writtenCodes_iff)

/-- The errors script of an API enumerates the errors that the API lists, each once and
in order, and it has no enumeration if there are none. -/
def EnumeratesErrors (sdk : Sdk) (api : ApiDescription) : Prop :=
  ∃ entries, api.EnumeratedBy entries ∧
    enumeration? "ErrorCode" (sdk.errorsFile (some api)).text = if entries = [] then
      none else some (entries.map some)

section

variable {config : Config} {now : Timestamp} {sdk : Sdk}

theorem enumeration?_errorsFile (made : Sdk.new config now = .ok sdk)
    (api : ApiDescription) :
    enumeration? "ErrorCode" (sdk.errorsFile (some api)).text =
      if writtenCodes api = [] then none else some ((writtenCodes api).map some) := by
  rw [errorsFile, Script.enumeration?_errorsSteps (isIdentifier_brand_of_new made)]
  simp only [writtenCodes, List.map_eq_nil_iff, List.map_map, Function.comp_def]

/-- No other entries than the written ones can be read from the script. -/
theorem enumeratesErrors_iff_enumeratedBy (made : Sdk.new config now = .ok sdk)
    (api : ApiDescription) :
    sdk.EnumeratesErrors api ↔ api.EnumeratedBy (writtenCodes api) := by
  have read := enumeration?_errorsFile made api
  constructor
  · rintro ⟨entries, enumerated, same⟩
    rw [read] at same
    have written : writtenCodes api = entries := by
      split at same
      · next nothing =>
          split at same
          · next empty => rw [nothing, empty]
          · cases same
      · split at same
        · cases same
        · exact List.map_injective_iff.mpr (Option.some_injective _)
            (Option.some.inj same)
    rw [written]
    exact enumerated
  · intro enumerated
    exact ⟨writtenCodes api, enumerated, read⟩

/-- The errors script of an API has an enumeration exactly if an error is listed that
can be declared, and its entries are the listed errors with their ids. Each of them is
there once, in the order of the list, exactly if none of them is listed twice. -/
theorem enumeratesErrors_iff (made : Sdk.new config now = .ok sdk)
    (api : ApiDescription) :
    (enumeration? "ErrorCode" (sdk.errorsFile (some api)).text = none ↔
      ∀ name id, ¬ api.Lists name id) ∧
      (∀ entries ∈ enumeration? "ErrorCode" (sdk.errorsFile (some api)).text,
      none ∉ entries ∧ ∀ name id, some (name, id) ∈ entries ↔ api.Lists name id) ∧
    (sdk.EnumeratesErrors api ↔ ∀ name id, api.Lists name id →
      api.errorList.count name = 1) := by
  rw [enumeration?_errorsFile made api]
  refine ⟨?_, ?_, ?_⟩
  · have empty : writtenCodes api = [] ↔ ∀ name id, ¬ api.Lists name id := by
      simp only [List.eq_nil_iff_forall_not_mem, Prod.forall, mem_writtenCodes_iff]
    rw [← empty]
    split <;> simp_all
  · intro entries read
    split at read
    · cases read
    · obtain rfl := Option.some.inj read
      constructor
      · simp
      · intro name id
        rw [List.mem_map_of_injective (Option.some_injective _), mem_writtenCodes_iff]
  · rw [enumeratesErrors_iff_enumeratedBy made, enumeratedBy_writtenCodes_iff]

end

/-- An API with a list of errors, some of which have no code or no name that can be
declared. -/
def partlyCoded : ApiDescription where
  name := "Client"
  datatypes := []
  calls := []
  errorList := ["Success", "InvalidParams", "Missing", "Not-An-Ident"]
  errors := .ofList [
    ("InvalidParams", ⟨"InvalidParams", 1000⟩),
    ("Success", ⟨"Success", 0⟩),
    ("Not-An-Ident", ⟨"Not-An-Ident", 1⟩)]

theorem enumeratesErrors_iff_partlyCoded :
    Sdk.new .standard standard.now = .ok standard ∧
      standard.EnumeratesErrors partlyCoded := by
  have once : ∀ name ∈ partlyCoded.errorList, partlyCoded.errorList.count name = 1 := by
    decide
  refine ⟨new_standard, (enumeratesErrors_iff new_standard partlyCoded).2.2.mpr ?_⟩
  intro name id lists
  exact once name lists.listed

/-- An API that lists its error twice. -/
def repeatedError : ApiDescription where
  name := "Client"
  datatypes := []
  calls := []
  errorList := ["Success", "Success"]
  errors := .ofList [("Success", ⟨"Success", 0⟩)]

/-- The error is declared twice. -/
theorem repeatedError_not_enumerated :
    enumeration? "ErrorCode" (standard.errorsFile (some repeatedError)).text =
        some [some ("Success", 0), some ("Success", 0)] ∧
      ¬ standard.EnumeratesErrors repeatedError := by
  have written : writtenCodes repeatedError = [("Success", 0), ("Success", 0)] := by
    decide
  constructor
  · rw [enumeration?_errorsFile new_standard, written]
    rfl
  · rw [enumeratesErrors_iff_enumeratedBy new_standard, written]
    intro enumerated
    exact absurd enumerated.once (by decide)

end Sdk

end GodotSdk
