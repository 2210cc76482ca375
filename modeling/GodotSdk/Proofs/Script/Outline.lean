import GodotSdk.Proofs.Script.Indentation
import GodotSdk.Proofs.Script.StatementNames

/-!
# Outlines

The scopes of a script, read from its text. Comments and blank lines are left out. Every
other line has a heading: how far it is indented, whether it begins with the word for a
class, and the name that it declares. A scope is made of the headings that are indented
as its first one is, and the scope of a class goes on as long as the lines after the
class are indented further. What a remark has after a line feed has headings too.
-/

namespace GodotSdk.Script

/-! ## Headings -/

/-- What is read of a line that is neither blank nor a comment. -/
structure Heading where
  /-- The number of blanks that the line begins with. -/
  margin : Nat
  /-- Whether the first word of the line is the one for classes. -/
  startsClass : Bool
  /-- The name that the line declares. -/
  name? : Option String
deriving DecidableEq, Repr

/-- The class that a line declares. -/
def Heading.className? (heading : Heading) : Option String :=
  if heading.startsClass then heading.name? else none

/-- The first word of a line. -/
def firstWord (line : List Char) : String :=
  String.ofList (Text.readName (Text.trimStart line)).1

/-- The heading of a line, if it has one. -/
def heading? (line : List Char) : Option Heading :=
  if Text.trimStart line = [] ∨ isComment line then none
  else some ⟨(line.takeWhile Text.isBlank).length, firstWord line == "class",
    lineName? line⟩

/-- The headings of the lines of a text. -/
def outline (text : List Char) : List Heading :=
  (text.splitOn '\n').filterMap heading?

/-- The classes that a text declares, at the margin or inside other classes. -/
def classNames (text : List Char) : List String :=
  (outline text).filterMap Heading.className?

/-! ## Scopes -/

/-- The names that are declared at a margin. -/
def namesFrom (margin : Nat) (headings : List Heading) : List String :=
  (headings.filter (·.margin = margin)).filterMap (·.name?)

/-- The names in the scope that headings begin with. -/
def scopeNames : List Heading → List String
  | [] => []
  | first :: rest => namesFrom first.margin (first :: rest)

/-- The names in the scopes of classes, each of which is made of the lines after the
class that are indented further. -/
def classScopes : List Heading → List (List String)
  | [] => []
  | first :: rest =>
      (first.className?.toList.map fun _ =>
        scopeNames (rest.takeWhile fun heading => first.margin < heading.margin))
      ++ classScopes rest

/-- No scope of a text declares a name twice: neither the outermost, nor one of a
class. -/
structure DistinctScopes (text : List Char) : Prop where
  script : (scopeNames (outline text)).Nodup
  classes : ∀ scope ∈ classScopes (outline text), scope.Nodup

example :
    let headings := outline
      "class A:\n    # var a\n    var a\n    func f():\n        var a\nclass B:\n    pass".toList
    scopeNames headings = ["A", "B"] ∧ classScopes headings = [["a", "f"], []] := by
  rw [String.toList_ofList]
  decide +kernel

section Scopes

variable {headings left right : List Heading}

@[simp] theorem namesFrom_nil (margin : Nat) : namesFrom margin [] = [] := rfl

@[simp] theorem namesFrom_append (margin : Nat) (left right : List Heading) :
    namesFrom margin (left ++ right) = namesFrom margin left ++
      namesFrom margin right := by
  simp [namesFrom]

theorem namesFrom_cons (margin : Nat) (first : Heading) (rest : List Heading) :
    namesFrom margin (first :: rest) = namesFrom margin [first] ++
      namesFrom margin rest :=
  namesFrom_append margin [first] rest

theorem namesFrom_flatMap {α : Type} (margin : Nat) (headings : α → List Heading)
    (values : List α) :
    namesFrom margin (values.flatMap headings) =
      values.flatMap fun value => namesFrom margin (headings value) := by
  induction values with
  | nil => rfl
  | cons value rest ih =>
      rw [List.flatMap_cons, namesFrom_append, ih, List.flatMap_cons]

theorem scopeNames_eq_namesFrom {margin : Nat}
    (first : ∀ heading ∈ headings.head?, heading.margin = margin) :
    scopeNames headings = namesFrom margin headings := by
  cases headings with
  | nil => rfl
  | cons heading rest => rw [scopeNames, first heading rfl]

theorem namesFrom_of_name? {margin : Nat}
    (unnamed : ∀ heading ∈ headings, heading.name? = none) :
    namesFrom margin headings = [] :=
  List.filterMap_eq_nil_iff.mpr fun heading among =>
    unnamed heading (List.mem_of_mem_filter among)

/-- Lines that are indented further are in other scopes. -/
theorem namesFrom_eq_nil {margin : Nat}
    (deeper : ∀ heading ∈ headings, margin < heading.margin) :
    namesFrom margin headings = [] := by
  have none : headings.filter (·.margin = margin) = [] := by
    rw [List.filter_eq_nil_iff]
    intro heading among
    simpa using (deeper heading among).ne'
  rw [namesFrom, none]
  rfl

/-- Without classes there are no scopes of classes. -/
theorem classScopes_eq_nil (plain : ∀ heading ∈ headings, heading.className? = none) :
    classScopes headings = [] := by
  induction headings with
  | nil => rfl
  | cons first rest ih =>
      rw [List.forall_mem_cons] at plain
      rw [classScopes, plain.1, ih plain.2]
      rfl

/-- Scopes end before a line at the left margin. -/
theorem classScopes_append (ends : ∀ heading ∈ right.head?, heading.margin = 0) :
    classScopes (left ++ right) = classScopes left ++ classScopes right := by
  induction left with
  | nil => rfl
  | cons first rest ih =>
      have inside :
          (rest ++ right).takeWhile (fun heading => first.margin < heading.margin) =
          rest.takeWhile fun heading => first.margin < heading.margin := by
        have stops :
            right.takeWhile (fun heading => first.margin < heading.margin) = [] := by
          cases right with
          | nil => rfl
          | cons next others =>
              exact List.takeWhile_cons_of_neg (by simp [ends next rfl])
        rw [List.takeWhile_append, stops, List.append_nil]
        split
        case isTrue whole => exact ((List.takeWhile_prefix _).eq_of_length whole).symm
        case isFalse => rfl
      rw [List.cons_append, classScopes, classScopes, inside, ih, List.append_assoc]

/-- The scope of a class at the left margin is everything that is indented after it. -/
theorem classScopes_class (name : String)
    (inside : ∀ heading ∈ headings, 0 < heading.margin ∧ heading.className? = none) :
    classScopes (⟨0, true, some name⟩ :: headings) = [scopeNames headings] := by
  have whole : headings.takeWhile (fun heading => 0 < heading.margin) = headings :=
    List.takeWhile_eq_self_iff.mpr fun heading among =>
      by simpa using (inside heading among).1
  rw [classScopes, whole, classScopes_eq_nil fun heading among =>
    (inside heading among).2]
  rfl

theorem margin_of_head?_flatMap {α : Type} {name : α → String} {startsClass : Bool}
    {body : α → List Heading} {values : List α} :
    ∀ heading ∈ (values.flatMap fun value =>
      ⟨0, startsClass, some (name value)⟩ :: body value).head?, heading.margin = 0 := by
  intro heading first
  cases values with
  | nil => cases first
  | cons value rest =>
      obtain rfl : ⟨0, startsClass, some (name value)⟩ = heading := by simpa using first
      rfl

/-- Classes that stand side by side have their scopes in order. -/
theorem classScopes_flatMap {α : Type} {name : α → String} {body : α → List Heading}
    {values : List α}
    (inside : ∀ value ∈ values, ∀ heading ∈ body value,
      0 < heading.margin ∧ heading.className? = none) :
    classScopes (values.flatMap fun value =>
      ⟨0, true, some (name value)⟩ :: body value) =
      values.map fun value => scopeNames (body value) := by
  induction values with
  | nil => rfl
  | cons value rest ih =>
      rw [List.forall_mem_cons] at inside
      rw [List.flatMap_cons, classScopes_append margin_of_head?_flatMap,
        classScopes_class _ inside.1, ih inside.2]
      rfl

end Scopes

/-! ## Headings of lines -/

section Lines

variable {line before : List Char}

theorem heading?_nil : heading? [] = none := rfl

theorem heading?_of_comment (comment : isComment line = true) : heading? line = none :=
  if_pos (.inr comment)

/-- The indentation of a line is counted. -/
theorem heading?_of_indentation {mark : Char} {rest : List Char}
    (visible : Text.isBlank mark = false) (plain : mark ≠ '#') (depth : Nat) :
    heading? ((indentation depth).toList ++ mark :: rest) =
      some ⟨4 * depth, firstWord (mark :: rest) == "class",
        lineName? (mark :: rest)⟩ := by
  have blanks : ∀ char ∈ (indentation depth).toList, Text.isBlank char = true :=
    fun char member => (isBlank_indentation member).1
  have begins : Text.trimStart (mark :: rest) = mark :: rest := by
    simp [Text.trimStart, visible]
  have trimmed : Text.trimStart ((indentation depth).toList ++ mark :: rest) =
      mark :: rest :=
    (List.dropWhile_append_of_pos blanks).trans begins
  have code : isComment ((indentation depth).toList ++ mark :: rest) = false := by
    simp [isComment, trimmed, plain]
  have margin :
      (((indentation depth).toList ++ mark :: rest).takeWhile Text.isBlank).length =
      4 * depth := by
    rw [List.takeWhile_append_of_pos blanks,
      List.takeWhile_cons_of_neg (by simp [visible])]
    simp [indentation]
  rw [heading?, if_neg (by simp [trimmed, code]), margin, lineName?_of_blanks blanks,
    firstWord, firstWord, trimmed, begins]

/-- The word that the line for a declaration begins with. -/
def DeclarationKind.firstWord : DeclarationKind → String
  | .globalClass => "class_name"
  | .innerClass => "class"
  | .variable => "var"
  | .function => "func"
  | .staticFunction => "static"

theorem firstWord_opening (kind : DeclarationKind) (rest : String) :
    firstWord (kind.opening ++ rest).toList = kind.firstWord := by
  have words : Text.isIdentifier kind.firstWord = true := by
    cases kind <;> decide +kernel
  have spaced : ∃ after : String, kind.opening = kind.firstWord ++ " " ++ after := by
    cases kind with
    | staticFunction => exact ⟨"func ", by decide⟩
    | _ => exact ⟨"", by decide⟩
  obtain ⟨after, opened⟩ := spaced
  have begins :=
    Text.trimStart_append_of_isIdentifier words (' ' :: (after ++ rest).toList)
  have split : Text.readName (kind.firstWord.toList ++ ' ' :: (after ++ rest).toList) =
      (kind.firstWord.toList, ' ' :: (after ++ rest).toList) :=
    Text.readName_append words (by simp)
  have parts : (kind.opening ++ rest).toList =
      kind.firstWord.toList ++ ' ' :: (after ++ rest).toList := by
    simp [opened, String.toList_append]
  rw [parts, Script.firstWord, begins, split, String.ofList_toList]

end Lines

/-! ## Headings of steps -/

/-- The headings of the lines of steps at a depth. -/
def outlineAt (depth : Nat) (steps : List Step) : List Heading :=
  (linesAt depth steps).filterMap heading?

theorem outline_layout (steps : List Step) :
    outline (layout steps).toList = outlineAt 0 steps := by
  rw [outline, splitOn_layout, List.filterMap_append, outlineAt]
  simp [heading?_nil]

@[simp] theorem outlineAt_nil (depth : Nat) : outlineAt depth [] = [] := by
  simp [outlineAt]

@[simp] theorem outlineAt_append (depth : Nat) (left right : List Step) :
    outlineAt depth (left ++ right) = outlineAt depth left ++
      outlineAt depth right := by
  simp [outlineAt]

theorem outlineAt_cons (depth : Nat) (first : Step) (rest : List Step) :
    outlineAt depth (first :: rest) = outlineAt depth [first] ++ outlineAt depth rest :=
  outlineAt_append depth [first] rest

theorem outlineAt_flatMap {α : Type} (depth : Nat) (steps : α → List Step)
    (values : List α) :
    outlineAt depth (values.flatMap steps) =
      values.flatMap fun value => outlineAt depth (steps value) := by
  simp only [outlineAt, linesAt_flatMap, List.filterMap_flatMap]

@[simp] theorem outlineAt_blank (depth : Nat) : outlineAt depth [.blank] = [] := by
  simp [outlineAt, linesAt, entriesOf_cons, Step.entries, heading?_nil]

theorem outlineAt_blanks (depth : Nat) : outlineAt depth [.blank, .blank] = [] := by
  rw [outlineAt_cons]
  simp

theorem outlineAt_block (depth : Nat) (header : String) (body : List Step) :
    outlineAt depth [.block header body] =
      outlineAt depth [.line (header ++ ":")] ++ outlineAt (depth + 1) body := by
  simp [outlineAt, linesAt_block]

/-- Comments have no headings, so the code of steps has all of them. -/
theorem outlineAt_eq_filterMap_codeAt (depth : Nat) (steps : List Step) :
    outlineAt depth steps = (codeAt depth steps).filterMap heading? := by
  have code (lines : List (List Char)) :
      (lines.filter fun line => !isComment line).filterMap heading? =
        lines.filterMap heading? := by
    induction lines with
    | nil => rfl
    | cons line rest ih =>
        cases comment : isComment line with
        | true => simp [comment, ih, heading?_of_comment]
        | false => simp [comment, List.filterMap_cons, ih]
  rw [outlineAt, ← code, linesAt, List.filter_flatMap, codeAt]
  rfl

theorem outlineAt_of_codeAt {depth : Nat} {steps : List Step}
    (comments : codeAt depth steps = []) :
    outlineAt depth steps = [] := by
  rw [outlineAt_eq_filterMap_codeAt, comments, List.filterMap_nil]

/-- Documentation has no headings, whatever it is. -/
@[simp] theorem outlineAt_doc (depth : Nat) (text : String) :
    outlineAt depth [.doc text] = [] :=
  outlineAt_of_codeAt (codeAt_doc depth text)

@[simp] theorem outlineAt_descriptionSteps (depth : Nat) (description : Option String) :
    outlineAt depth (descriptionSteps description) = [] := by
  cases description <;> simp [descriptionSteps]

/-- The heading of a line that declares a name. -/
theorem Declares.outlineAt_eq {kind : DeclarationKind} {name line : String}
    (declares : Declares kind name line) (depth : Nat) :
    outlineAt depth [.line line] =
      [⟨4 * depth, kind.firstWord == "class", some name⟩] := by
  obtain ⟨identifier, ending, rfl, ends, single⟩ := declares
  have opened : '\n' ∉ kind.opening.toList := by cases kind <;> decide
  have feedless :=
    feedless_append opened
      (feedless_append (feedless_of_isIdentifier identifier) single)
  obtain ⟨mark, others, begins, visible, plain⟩ : ∃ mark others,
      kind.opening.toList = mark :: others ∧ Text.isBlank mark = false ∧
        mark ≠ '#' := by
    cases kind <;> exact ⟨_, _, rfl, by decide, by decide⟩
  have chars : (kind.opening ++ (name ++ ending)).toList =
      mark :: (others ++ (name ++ ending).toList) := by
    rw [String.toList_append, begins, List.cons_append]
  have printable : kind.opening ++ (name ++ ending) ≠ "" := by
    intro empty
    rw [empty] at chars
    cases chars
  have named := lineName?_opening kind identifier ending ends
  have word := firstWord_opening kind (name ++ ending)
  rw [outlineAt, linesAt_line,
    List.splitOn_eq_singleton (feedless_entry feedless depth), toList_entry printable]
  rw [chars] at named word ⊢
  rw [List.filterMap_cons_some (heading?_of_indentation visible plain depth),
    named, word]
  rfl

/-! ## Headings of statements -/

theorem feedlessAll_append {left right : List Step} (begins : FeedlessAll left)
    (follows : FeedlessAll right) : FeedlessAll (left ++ right) := by
  induction left with
  | nil => exact follows
  | cons first rest ih =>
      rw [FeedlessAll] at begins
      rw [List.cons_append, FeedlessAll]
      exact ⟨begins.1, ih begins.2⟩

mutual
/-- The lines of plain statements have no line feeds, at every depth of branches. -/
theorem feedlessAll_steps {statement : Statement} (plain : statement.Plain) :
    FeedlessAll statement.steps := by
  have alone {text : String} (feedless : '\n' ∉ text.toList) :
      FeedlessAll [.line text] := by
    simpa [FeedlessAll, Step.Feedless] using feedless
  cases statement with
  | declare name value =>
      obtain ⟨identifier, valued⟩ := by simpa only [Statement.Plain] using plain
      have named :=
        feedless_append (by decide : '\n' ∉ "var ".toList)
          (feedless_of_isIdentifier identifier)
      rw [Statement.steps]
      exact alone (feedless_append (feedless_append named (by decide))
        (feedless_render valued))
  | assign target value =>
      obtain ⟨_, inside, valued⟩ := by simpa only [Statement.Plain] using plain
      rw [Statement.steps]
      exact alone (feedless_append
        (feedless_append (feedless_render inside) (by decide)) (feedless_render valued))
  | perform value =>
      obtain ⟨_, inside⟩ := by simpa only [Statement.Plain] using plain
      rw [Statement.steps]
      exact alone (feedless_render inside)
  | call function arguments =>
      obtain ⟨identifier, passed⟩ := by simpa only [Statement.Plain] using plain
      have called :=
        feedless_append (feedless_of_isIdentifier identifier)
          (by decide : '\n' ∉ "(".toList)
      have given :=
        feedless_intercalate (by decide : '\n' ∉ ", ".toList)
          (feedless_renderAll passed)
      rw [Statement.steps]
      exact alone (feedless_append (feedless_append called given) (by decide))
  | choose branches =>
      rw [Statement.steps]
      exact feedlessAll_branchSteps (by simpa only [Statement.Plain] using plain) true
  | invokeWith object method arguments parameters body =>
      obtain ⟨_, inside, single, passed, named, within⟩ := by
        simpa only [Statement.Plain] using plain
      rw [Statement.steps, FeedlessAll, FeedlessAll, Step.Feedless, Step.Feedless]
      exact ⟨feedless_invokeHeader inside single passed named,
        feedlessAll_stepsAll within, alone (by decide)⟩
  | pass => exact alone (by decide)
  | leave => exact alone (by decide)
  | answer value =>
      have valued : value.Feedless := by simpa only [Statement.Plain] using plain
      rw [Statement.steps]
      exact alone (feedless_append (by decide) (feedless_render valued))

theorem feedlessAll_stepsAll {body : List Statement} (plain : Statement.PlainAll body) :
    FeedlessAll (Statement.stepsAll body) := by
  cases body with
  | nil => simp [Statement.stepsAll, FeedlessAll]
  | cons first rest =>
      obtain ⟨begins, follows⟩ := by simpa only [Statement.PlainAll] using plain
      rw [Statement.stepsAll]
      exact feedlessAll_append (feedlessAll_steps begins) (feedlessAll_stepsAll follows)

theorem feedlessAll_branchSteps {branches : List (Expr × List Statement)}
    (plain : Statement.PlainIn branches) (first : Bool) :
    FeedlessAll (Statement.branchSteps first branches) := by
  cases branches with
  | nil => simp [Statement.branchSteps, FeedlessAll]
  | cons branch rest =>
      obtain ⟨condition, body⟩ := branch
      obtain ⟨tested, within, follows⟩ := by simpa only [Statement.PlainIn] using plain
      have word : '\n' ∉ (branchWord first).toList := by cases first <;> decide
      rw [Statement.branchSteps, FeedlessAll, Step.Feedless]
      exact ⟨⟨feedless_append word (feedless_render tested),
        feedlessAll_stepsAll within⟩, feedlessAll_branchSteps follows false⟩
end

/-- Every heading of steps without line feeds is indented as deep as they are. -/
theorem margin_of_feedless {steps : List Step} (feedless : FeedlessAll steps)
    {depth : Nat} :
    ∀ heading ∈ outlineAt depth steps, 4 * depth ≤ heading.margin := by
  intro heading among
  obtain ⟨line, printed, read⟩ := List.mem_filterMap.mp among
  obtain ⟨text, written, inside⟩ := List.mem_flatMap.mp printed
  have deeper := entriesOf_add depth 0 steps
  rw [Nat.add_zero] at deeper
  rw [List.splitOn_eq_singleton (feedless_of_mem_entriesOf feedless text written),
    List.mem_singleton] at inside
  rw [deeper] at written
  obtain ⟨shallow, _, rfl⟩ := List.mem_map.mp written
  have printable : shallow ≠ "" := by
    rintro rfl
    simp [inside, heading?_nil] at read
  rw [inside, toList_entry printable, heading?] at read
  split at read
  · cases read
  · obtain rfl := Option.some.inj read
    rw [List.takeWhile_append_of_pos fun char member => (isBlank_indentation member).1]
    simp [indentation]

theorem name?_of_namesAt {depth : Nat} {steps : List Step}
    (undeclared : namesAt depth steps = []) :
    ∀ heading ∈ outlineAt depth steps, heading.name? = none := by
  intro heading among
  obtain ⟨line, printed, read⟩ := List.mem_filterMap.mp among
  have unnamed : lineName? line = none :=
    List.filterMap_eq_nil_iff.mp undeclared line printed
  rw [heading?] at read
  split at read
  · cases read
  · obtain rfl := Option.some.inj read
    exact unnamed

/-- Steps that declare no names declare no classes. -/
theorem className?_of_namesAt {depth : Nat} {steps : List Step}
    (undeclared : namesAt depth steps = []) :
    ∀ heading ∈ outlineAt depth steps, heading.className? = none := by
  intro heading among
  rw [Heading.className?, name?_of_namesAt undeclared heading among, ite_self]

/-- Statements of which each is a declaration or has none in it declare no classes. -/
theorem className?_of_plainAll {body : List Statement} (plain : Statement.PlainAll body)
    (flat : ∀ statement ∈ body, statement.names = [] ∨
      ∃ name value, statement = .declare name value)
    (depth : Nat) : ∀ heading ∈ outlineAt depth (Statement.stepsAll body),
      heading.className? = none := by
  induction body with
  | nil => simp [Statement.stepsAll]
  | cons first rest ih =>
      obtain ⟨begins, follows⟩ := by simpa only [Statement.PlainAll] using plain
      rw [List.forall_mem_cons] at flat
      rw [Statement.stepsAll, outlineAt_append, List.forall_mem_append]
      refine ⟨?_, ih follows flat.2⟩
      rcases flat.1 with unnamed | ⟨name, value, rfl⟩
      · exact className?_of_namesAt (by rw [namesAt_steps begins, unnamed])
      · obtain ⟨identifier, valued⟩ := by simpa only [Statement.Plain] using begins
        rw [Statement.steps, (declares_declare identifier valued).outlineAt_eq,
          List.forall_mem_singleton]
        rfl

end GodotSdk.Script
