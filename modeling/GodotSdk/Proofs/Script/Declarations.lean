import GodotSdk.Script.Layout
import GodotSdk.Text.Identifier
import Mathlib.Data.List.Basic

/-!
# Declarations

What the steps of a script declare. A step declares the identifier after the word that
its line or its header begins with. The steps that stand side by side form a scope, and
the body of an inner class is a scope of its own. A line is read by its beginning only:
a remark that goes on after a line feed is a comment here, and what it declares there is
read from the text of a script.
-/

namespace GodotSdk

namespace Text

/-- The name that a text begins with, and what follows it. -/
def readName (text : List Char) : List Char × List Char :=
  (text.takeWhile continuesIdentifier, text.dropWhile continuesIdentifier)

theorem readName_append {name : String} (identifier : isIdentifier name = true)
    {rest : List Char} (ends : ∀ char ∈ rest.head?, continuesIdentifier char = false) :
    readName (name.toList ++ rest) = (name.toList, rest) := by
  have continues := continuesIdentifier_of_mem identifier
  have stops : rest.takeWhile continuesIdentifier = [] ∧
      rest.dropWhile continuesIdentifier = rest := by
    cases rest with
    | nil => exact ⟨rfl, rfl⟩
    | cons first others =>
        have stop : ¬ continuesIdentifier first = true := by simp [ends first rfl]
        exact ⟨List.takeWhile_cons_of_neg stop, List.dropWhile_cons_of_neg stop⟩
  rw [readName, List.takeWhile_append_of_pos continues,
    List.dropWhile_append_of_pos continues, stops.1, stops.2, List.append_nil]

/-- The characters that can stand beside a name in a script. -/
def marks : List Char :=
  [' ', '\n', '#', ':', ';', '=', '.', '(', '[', '\x7b']

/-- No mark is part of an identifier. -/
theorem continuesIdentifier_of_mem_marks {char : Char} (mark : char ∈ marks) :
    continuesIdentifier char = false := by
  have apart : marks.any continuesIdentifier = false := by decide +kernel
  simpa using List.any_eq_false.mp apart char mark

@[simp] theorem continuesIdentifier_space : continuesIdentifier ' ' = false :=
  continuesIdentifier_of_mem_marks (by decide)

@[simp] theorem continuesIdentifier_sign : continuesIdentifier '#' = false :=
  continuesIdentifier_of_mem_marks (by decide)

/-- No blank is part of an identifier. -/
theorem isBlank_of_continuesIdentifier {char : Char}
    (continues : continuesIdentifier char = true) :
    isBlank char = false := by
  have apart : (blanks.ranges.flatMap fun range =>
      List.range' range.1 (range.2 + 1 - range.1)).all (fun code =>
      !inRanges identifierStarts.ranges code &&
      !inRanges identifierExtras.ranges code) = true := by decide +kernel
  rw [Bool.eq_false_iff]
  intro blank
  obtain ⟨range, among, bounds⟩ := exists_range_of_inRanges blank
  have code : char.toNat ∈ blanks.ranges.flatMap fun range =>
      List.range' range.1 (range.2 + 1 - range.1) :=
    List.mem_flatMap.mpr ⟨range, among, List.mem_range'_1.mpr (by omega)⟩
  have outside := List.all_eq_true.mp apart _ code
  simp only [continuesIdentifier, startsIdentifier, RangeTable.contains] at continues
  simp_all

theorem trimStart_append_of_isIdentifier {name : String}
    (identifier : isIdentifier name = true) (rest : List Char) :
    trimStart (name.toList ++ rest) = name.toList ++ rest := by
  have continues := continuesIdentifier_of_mem identifier
  cases chars : name.toList with
  | nil => simp [isIdentifier, isIdentifierText, chars] at identifier
  | cons first others =>
      have visible := isBlank_of_continuesIdentifier (continues first (by simp [chars]))
      simp [trimStart, visible]

end Text

namespace Script

theorem feedless_of_isIdentifier {name : String}
    (identifier : Text.isIdentifier name = true) :
    '\n' ∉ name.toList := by
  have ends : Text.continuesIdentifier '\n' = false :=
    Text.continuesIdentifier_of_mem_marks (by decide)
  intro member
  rw [Text.continuesIdentifier_of_mem identifier _ member] at ends
  cases ends

/-! ## Lines -/

/-- What a name can be declared as. -/
inductive DeclarationKind
  | globalClass
  | innerClass
  | variable
  | function
  | staticFunction
deriving DecidableEq, Repr

namespace DeclarationKind

def all : List DeclarationKind :=
  [.globalClass, .innerClass, .variable, .function, .staticFunction]

theorem mem_all (kind : DeclarationKind) : kind ∈ all := by
  cases kind <;> decide

/-- The word that a declaration begins with. -/
def opening : DeclarationKind → String
  | .globalClass => "class_name "
  | .innerClass => "class "
  | .variable => "var "
  | .function => "func "
  | .staticFunction => "static func "

end DeclarationKind

/-- A name, and what it is declared as. -/
structure Declaration where
  kind : DeclarationKind
  name : String
deriving DecidableEq, Repr

/-- The declaration of a kind that a line is. -/
def Declaration.ofLine? (line : String) (kind : DeclarationKind) : Option Declaration :=
  (kind.opening.toList.isPrefixOf? line.toList).map fun rest =>
    ⟨kind, String.ofList (rest.takeWhile Text.continuesIdentifier)⟩

/-- What a line declares. -/
def declaration? (line : String) : Option Declaration :=
  DeclarationKind.all.findSome? (Declaration.ofLine? line)

example : declaration? "static func log_in(settings: PlayFabSettings) -> void" =
    some ⟨.staticFunction, "log_in"⟩ := by
  decide

/-- No line has the openings of two kinds. -/
theorem ofLine?_of_ne {kind other : DeclarationKind} (different : other ≠ kind)
    (rest : String) :
    Declaration.ofLine? (kind.opening ++ rest) other = none := by
  have apart : ∀ first ∈ DeclarationKind.all, ∀ second ∈ DeclarationKind.all,
      first.opening.toList <+: second.opening.toList → first = second := by decide
  rw [Declaration.ofLine?, Option.map_eq_none_iff, Option.eq_none_iff_forall_not_mem]
  intro tail read
  have same := List.isPrefixOf?_eq_some_iff_append_eq.mp read
  rw [String.toList_append] at same
  have begins : other.opening.toList <+: kind.opening.toList ++ rest.toList :=
    ⟨tail, same⟩
  apply different
  cases List.prefix_or_prefix_of_prefix begins (List.prefix_append ..) with
  | inl shorter => exact apart other other.mem_all kind kind.mem_all shorter
  | inr longer => exact (apart kind kind.mem_all other other.mem_all longer).symm

/-- A literal is cut around a name by its characters, since the kernel is slow to decode
it. -/
theorem ofList_eq_append {whole first second third : List Char}
    (same : whole = first ++ (second ++ third)) :
    String.ofList whole = String.ofList first ++
      (String.ofList second ++ String.ofList third) := by
  simp only [← String.ofList_append, same]

theorem ofList_append_eq {left right first second third : List Char}
    (same : left ++ right = first ++ (second ++ third)) :
    String.ofList left ++ String.ofList right =
      String.ofList first ++ (String.ofList second ++ String.ofList third) := by
  rw [← String.ofList_append]
  exact ofList_eq_append same

/-- The characters that can follow a name where it is declared. -/
def nameEnds : List Char :=
  [' ', ':', '(']

theorem nameEnds_ofList {chars : List Char}
    (ends : chars.head?.any (· ∈ nameEnds) = true) :
    ∀ char ∈ (String.ofList chars).toList.head?, char ∈ nameEnds := by
  rw [String.toList_ofList]
  intro char first
  rw [Option.mem_def.mp first] at ends
  simpa using ends

theorem nameEnds_of_append {text : String}
    (ends : text.toList.head?.any (· ∈ nameEnds) = true) (rest : String) :
    ∀ char ∈ (text ++ rest).toList.head?, char ∈ nameEnds := by
  rw [String.toList_append]
  cases chars : text.toList with
  | nil => simp [chars] at ends
  | cons first others => simpa [chars] using ends

/-- An opening and a name that ends declare that name. -/
theorem declaration?_opening (kind : DeclarationKind) {name : String}
    (identifier : Text.isIdentifier name = true) (rest : String)
    (ends : ∀ char ∈ rest.toList.head?, char ∈ nameEnds) :
    declaration? (kind.opening ++ (name ++ rest)) = some ⟨kind, name⟩ := by
  have marked : ∀ char ∈ nameEnds, char ∈ Text.marks := by simp [nameEnds, Text.marks]
  have split : Text.readName (name.toList ++ rest.toList) =
      (name.toList, rest.toList) := by
    apply Text.readName_append identifier
    intro char first
    exact Text.continuesIdentifier_of_mem_marks (marked char (ends char first))
  have taken : (name.toList ++ rest.toList).takeWhile Text.continuesIdentifier =
      name.toList := congrArg Prod.fst split
  have read : Declaration.ofLine? (kind.opening ++ (name ++ rest)) kind =
      some ⟨kind, name⟩ := by
    have opened :=
      List.isPrefixOf?_eq_some_iff_append_eq.mpr
        (Eq.refl (kind.opening.toList ++ (name ++ rest).toList))
    rw [Declaration.ofLine?, String.toList_append, opened, String.toList_append,
      Option.map_some, taken, String.ofList_toList]
  obtain ⟨before, after, order, absent⟩ := List.eq_append_cons_of_mem kind.mem_all
  apply List.findSome?_eq_some_iff.mpr
  refine ⟨before, kind, after, order, read, ?_⟩
  intro other earlier
  exact ofLine?_of_ne (ne_of_mem_of_not_mem earlier absent) (name ++ rest)

/-- A comment declares nothing. -/
theorem declaration?_comment {line : String} (mark : line.toList.head? = some '#') :
    declaration? line = none := by
  apply List.findSome?_eq_none_iff.mpr
  intro kind _
  rw [Declaration.ofLine?, Option.map_eq_none_iff]
  cases chars : line.toList with
  | nil => simp [chars] at mark
  | cons first rest =>
      rw [chars, List.head?_cons, Option.some.injEq] at mark
      rw [mark]
      cases kind <;> rfl

/-! ## Steps -/

/-- What a step declares beside others, by the beginning of its line or its header. What
stands deeper is declared in other scopes, and what follows a line feed in a line is
left out. -/
def Step.declarations : Step → List Declaration
  | .line text => (declaration? text).toList
  | .lines text =>
      (Text.lines text.toList).filterMap fun line => declaration? (String.ofList line)
  | .doc _ | .blank | .indented _ => []
  | .block header _ => (declaration? header).toList

/-- What steps that stand side by side declare. -/
def declarations (steps : List Step) : List Declaration :=
  steps.flatMap Step.declarations

/-- An inner class: its name, and what is declared in it. -/
structure InnerClass where
  name : String
  scope : List Declaration
deriving DecidableEq, Repr

/-- The inner class that a step is. A class that follows a line feed in a line is left
out. -/
def Step.innerClass? : Step → Option InnerClass
  | .block header body =>
      match declaration? header with
      | some ⟨.innerClass, name⟩ => some ⟨name, Script.declarations body⟩
      | _ => none
  | _ => none

/-- The inner classes among steps. -/
def innerClasses (steps : List Step) : List InnerClass :=
  steps.filterMap Step.innerClass?

section Steps

variable {α : Type} {header name : String}

@[simp] theorem declarations_nil : declarations [] = [] := rfl

@[simp] theorem declarations_cons (first : Step) (rest : List Step) :
    declarations (first :: rest) = first.declarations ++ declarations rest := rfl

@[simp] theorem declarations_append (left right : List Step) :
    declarations (left ++ right) = declarations left ++ declarations right :=
  List.flatMap_append

theorem declarations_flatMap (steps : α → List Step) (values : List α) :
    declarations (values.flatMap steps) = values.flatMap fun value =>
      declarations (steps value) :=
  List.flatMap_assoc

@[simp] theorem innerClasses_append (left right : List Step) :
    innerClasses (left ++ right) = innerClasses left ++ innerClasses right :=
  List.filterMap_append

theorem innerClasses_flatMap (steps : α → List Step) (values : List α) :
    innerClasses (values.flatMap steps) = values.flatMap fun value =>
      innerClasses (steps value) :=
  List.filterMap_flatMap

theorem innerClasses_block (declared : declaration? header = some ⟨.innerClass, name⟩)
    (body : List Step) :
    innerClasses [.block header body] = [⟨name, declarations body⟩] := by
  simp only [innerClasses, Step.innerClass?, List.filterMap_cons, declared,
    List.filterMap_nil]

end Steps

/-! ## Comments and headers -/

@[simp] theorem declarations_descriptionSteps (description : Option String) :
    declarations (descriptionSteps description) = [] := by
  cases description <;> rfl

@[simp] theorem innerClasses_descriptionSteps (description : Option String) :
    innerClasses (descriptionSteps description) = [] := by
  cases description <;> rfl

theorem declaration?_obsoleteNote (obsolete : Obsolete) :
    declaration? (obsoleteNote obsolete) = none := by
  apply declaration?_comment
  unfold obsoleteNote
  cases obsolete.severity <;> simp [String.toList_append]

@[simp] theorem declarations_obsoleteSteps (obsolete : Option Obsolete) :
    declarations (obsoleteSteps obsolete) = [] := by
  cases obsolete with
  | none => rfl
  | some obsolete => simp [obsoleteSteps, Step.declarations, declaration?_obsoleteNote]

@[simp] theorem innerClasses_obsoleteSteps (obsolete : Option Obsolete) :
    innerClasses (obsoleteSteps obsolete) = [] := by
  cases obsolete <;> rfl

/-- The first lines of a script declare its class. -/
theorem declarations_scriptHeader (description : String) {className : String}
    (identifier : Text.isIdentifier className = true) :
    declarations (scriptHeader description className) =
      [⟨.globalClass, className⟩] := by
  have declared : declaration? ("class_name " ++ (className ++ "")) =
      some ⟨.globalClass, className⟩ :=
    declaration?_opening .globalClass identifier "" (by simp)
  rw [String.append_empty] at declared
  have bannered : declaration? banner = none :=
    declaration?_comment (by rw [banner, String.toList_ofList, List.head?_cons])
  have based : declaration? "extends RefCounted" = none := by decide +kernel
  simp [scriptHeader, Step.declarations, declared, bannered, based]

@[simp] theorem innerClasses_scriptHeader (description className : String) :
    innerClasses (scriptHeader description className) = [] := rfl

end Script

end GodotSdk
