import GodotSdk.Proofs.Sdk.Scopes
import Mathlib.Data.List.Infix

/-!
# Keywords

The script language keeps some words for itself. An identifier may be one of them, and
the check of a description asks for identifiers only. Sanitizing neither makes a keyword
nor removes one. So the names that scripts declare from a description are free of
keywords exactly if its classes, its properties and the snake case of its calls are.
What its remarks declare after a line feed is not among these names.
-/

namespace GodotSdk

namespace Script

/-- The words that cannot be declared. -/
def keywords : List String := [
  "if", "elif", "else", "for", "while", "match", "break", "continue", "pass", "return",
  "class", "class_name", "extends", "is", "in", "as", "self", "super", "signal", "func",
  "static", "const", "enum", "var", "breakpoint", "preload", "await", "assert", "void",
  "not", "and", "or", "true", "false", "null"]

/-- The names in a scope that are declared as something. -/
def namesOf (kind : DeclarationKind) (scope : List Declaration) : List String :=
  (scope.filter (·.kind = kind)).map (·.name)

/-- The names that the scripts of an API declare from its description: its classes,
their members, and the functions of its calls. The names that a remark declares after a
line feed are left out. -/
def describedNames (sdk : Sdk) (api : ApiDescription) : List String :=
  namesOf .innerClass (declarations (modelsSteps sdk api))
    ++ (innerClasses (modelsSteps sdk api)).flatMap (fun inner =>
      namesOf .variable inner.scope)
    ++ namesOf .staticFunction (declarations (clientSteps sdk api))

end Script

open Script (keywords namesOf describedNames)

/-- No keyword ends in a reserved name. -/
theorem ReservedNames.foreign_keywords : engineClasses.Foreign keywords := by
  rw [foreign_iff, foldings_engineClasses]
  decide +kernel

namespace Sdk

variable {config : Config} {now : Timestamp} {sdk : Sdk} {api : ApiDescription}
  {accepted : Sanitized}

section

variable (made : Sdk.new config now = .ok sdk)

include made

theorem className_mem_keywords_iff {name : String} :
    sdk.names.sanitizer.className name ∈ keywords ↔ name ∈ keywords :=
  className_mem_iff_of_foreign made ReservedNames.foreign_keywords

theorem propertyName_mem_keywords_iff {name : String} :
    sdk.names.sanitizer.propertyName name ∈ keywords ↔ name ∈ keywords := by
  apply Sanitizer.propertyName_mem_iff_of_free
  · intro word keyword
    exact isReserved_of_foreign made ReservedNames.foreign_keywords keyword
      (List.suffix_refl _)
  · decide

variable (accepts : sdk.accept api = .ok accepted)

include accepts

/-- The names that the scripts take from the description. -/
theorem describedNames_eq :
    describedNames sdk accepted.api =
      api.datatypes.map (fun datatype => sdk.names.sanitizer.className datatype.name)
        ++ api.datatypes.flatMap (fun datatype =>
          datatype.properties.map fun property =>
            sdk.names.sanitizer.propertyName property.name)
        ++ api.calls.map fun call => methodName call.name := by
  rw [describedNames, declarations_modelsSteps made accepts,
    innerClasses_modelsSteps accepts, declarations_clientSteps made accepts]
  simp [namesOf, Sanitizer.innerClass, List.flatMap_map, List.filter_map,
    Function.comp_def]

/-- The scripts declare no keyword from the description exactly if none of its classes
and properties is named by a keyword, and none of its calls has one for its snake case.
-/
theorem describedNames_disjoint_keywords_iff :
    (∀ name ∈ describedNames sdk accepted.api, name ∉ keywords) ↔
      (∀ datatype ∈ api.datatypes, datatype.name ∉ keywords) ∧
        (∀ datatype ∈ api.datatypes, ∀ property ∈ datatype.properties,
          property.name ∉ keywords) ∧
          ∀ call ∈ api.calls, methodName call.name ∉ keywords := by
  rw [describedNames_eq made accepts]
  simp only [List.forall_mem_append, List.forall_mem_map, List.forall_mem_flatMap,
    className_mem_keywords_iff made, propertyName_mem_keywords_iff made, and_assoc]

end

/-- Names that are close to keywords. -/
def nearKeywords : ApiDescription :=
  oneClass "Class" ["Match", "while_", "Node"] ["Matches", "NotIn", "ClassNames"]

theorem describedNames_disjoint_keywords_iff_nearKeywords :
    Sdk.new .standard standard.now = .ok standard ∧
      standard.accept nearKeywords =
        .ok (standard.names.sanitizer.sanitize nearKeywords) ∧
      ∀ name ∈ describedNames standard (standard.names.sanitizer.sanitize
        nearKeywords).api, name ∉ keywords := by
  have accepts : standard.accept nearKeywords =
      .ok (standard.names.sanitizer.sanitize nearKeywords) :=
    accept_standard (by decide +kernel)
  have free : ∀ call ∈ nearKeywords.calls, methodName call.name ∉ keywords := by decide
  exact ⟨new_standard, accepts,
    (describedNames_disjoint_keywords_iff new_standard accepts).mpr
      ⟨by decide, by decide, free⟩⟩

/-- A class and a property that are named by keywords, and calls that are not. -/
def keywordNames : ApiDescription :=
  oneClass "class" ["func"] ["Match", "ClassName"]

/-- All of their names are declared, and all of them are keywords. -/
theorem keywordNames_not_disjoint :
    standard.accept keywordNames =
      .ok (standard.names.sanitizer.sanitize keywordNames) ∧
      describedNames standard (standard.names.sanitizer.sanitize keywordNames).api =
        ["class", "func", "match", "class_name"] ∧
      ¬ ∀ name ∈ describedNames standard (standard.names.sanitizer.sanitize
        keywordNames).api, name ∉ keywords := by
  have accepts : standard.accept keywordNames =
      .ok (standard.names.sanitizer.sanitize keywordNames) :=
    accept_standard (by decide)
  have declared :
      describedNames standard (standard.names.sanitizer.sanitize keywordNames).api =
      ["class", "func", "match", "class_name"] := by
    rw [describedNames_eq new_standard accepts]
    decide
  refine ⟨accepts, declared, ?_⟩
  rw [declared]
  decide

end Sdk

end GodotSdk
