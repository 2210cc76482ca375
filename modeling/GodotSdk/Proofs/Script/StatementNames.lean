import GodotSdk.Proofs.Script.Names
import GodotSdk.Proofs.Script.Quoted
import GodotSdk.Script.Code

/-!
# Names that statements declare

Expressions are printed on one line, whatever is in their literals, so a statement
declares its variables and nothing else. That is by induction on statements, with the
branches and bodies inside them.
-/

namespace GodotSdk.Script

/-! ## Expressions -/

mutual
/-- The names in an expression have no line feeds. -/
def Expr.Feedless : Expr → Prop
  | .text _ | .emptyDictionary | .null => True
  | .variable name => '\n' ∉ name.toList
  | .field object label => object.Feedless ∧ '\n' ∉ label.toList
  | .index object key => object.Feedless ∧ key.Feedless
  | .invoke object method arguments =>
      object.Feedless ∧ '\n' ∉ method.toList ∧ Expr.FeedlessAll arguments
  | .dictionary entries => Expr.FeedlessEntries entries
  | .not operand => operand.Feedless
  | .and left right => left.Feedless ∧ right.Feedless

def Expr.FeedlessAll : List Expr → Prop
  | [] => True
  | first :: rest => first.Feedless ∧ Expr.FeedlessAll rest

def Expr.FeedlessEntries : List (Expr × Expr) → Prop
  | [] => True
  | (key, value) :: rest => key.Feedless ∧ value.Feedless ∧ Expr.FeedlessEntries rest
end

theorem feedless_intercalate {separator : String} (single : '\n' ∉ separator.toList)
    {texts : List String} (feedless : ∀ text ∈ texts, '\n' ∉ text.toList) :
    '\n' ∉ (separator.intercalate texts).toList := by
  induction texts with
  | nil => exact List.not_mem_nil
  | cons first rest ih =>
      obtain ⟨begins, follows⟩ := List.forall_mem_cons.mp feedless
      cases rest with
      | nil => simpa using begins
      | cons next others =>
          rw [String.intercalate_cons_of_ne_nil (List.cons_ne_nil next others)]
          exact feedless_append (feedless_append begins single) (ih follows)

theorem feedless_join {texts : List String}
    (feedless : ∀ text ∈ texts, '\n' ∉ text.toList) :
    '\n' ∉ (String.join texts).toList := by
  induction texts with
  | nil => decide
  | cons first rest ih =>
      obtain ⟨begins, follows⟩ := List.forall_mem_cons.mp feedless
      rw [String.join_cons]
      exact feedless_append begins (ih follows)

mutual
/-- Such an expression is printed on one line, whatever is in its literals. -/
theorem feedless_render {expression : Expr} (feedless : expression.Feedless) :
    '\n' ∉ expression.render.toList := by
  cases expression with
  | text value => exact not_mem_quote (by decide) value
  | emptyDictionary => decide
  | null => decide
  | «variable» name => simpa only [Expr.Feedless, Expr.render] using feedless
  | field object label =>
      obtain ⟨inside, single⟩ := by simpa only [Expr.Feedless] using feedless
      rw [Expr.render]
      exact feedless_append
        (feedless_append (feedless_render inside) (by decide)) single
  | index object key =>
      obtain ⟨inside, keyed⟩ := by simpa only [Expr.Feedless] using feedless
      have opened :=
        feedless_append (feedless_render inside) (by decide : '\n' ∉ "[".toList)
      rw [Expr.render]
      exact feedless_append (feedless_append opened (feedless_render keyed)) (by decide)
  | invoke object method arguments =>
      obtain ⟨inside, single, passed⟩ := by simpa only [Expr.Feedless] using feedless
      have called :=
        feedless_append (feedless_append (feedless_render inside)
          (by decide : '\n' ∉ ".".toList)) single
      have given :=
        feedless_intercalate (by decide : '\n' ∉ ", ".toList)
          (feedless_renderAll passed)
      rw [Expr.render]
      exact feedless_append (feedless_append (feedless_append called (by decide)) given)
        (by decide)
  | dictionary entries =>
      have given := feedless_intercalate (by decide : '\n' ∉ ", ".toList)
        (feedless_renderEntries (by simpa only [Expr.Feedless] using feedless))
      rw [Expr.render]
      exact feedless_append (feedless_append (by decide) given) (by decide)
  | not operand =>
      rw [Expr.render]
      exact feedless_append (by decide)
        (feedless_render (by simpa only [Expr.Feedless] using feedless))
  | and left right =>
      obtain ⟨begins, follows⟩ := by simpa only [Expr.Feedless] using feedless
      rw [Expr.render]
      exact feedless_append (feedless_append (feedless_render begins) (by decide))
        (feedless_render follows)

theorem feedless_renderAll {expressions : List Expr}
    (feedless : Expr.FeedlessAll expressions) :
    ∀ text ∈ Expr.renderAll expressions, '\n' ∉ text.toList := by
  cases expressions with
  | nil => simp [Expr.renderAll]
  | cons first rest =>
      obtain ⟨begins, follows⟩ := by simpa only [Expr.FeedlessAll] using feedless
      rw [Expr.renderAll, List.forall_mem_cons]
      exact ⟨feedless_render begins, feedless_renderAll follows⟩

theorem feedless_renderEntries {entries : List (Expr × Expr)}
    (feedless : Expr.FeedlessEntries entries) :
    ∀ text ∈ Expr.renderEntries entries, '\n' ∉ text.toList := by
  cases entries with
  | nil => simp [Expr.renderEntries]
  | cons first rest =>
      obtain ⟨key, value⟩ := first
      obtain ⟨keyed, valued, follows⟩ := by
        simpa only [Expr.FeedlessEntries] using feedless
      have named :=
        feedless_append (feedless_render keyed) (by decide : '\n' ∉ ": ".toList)
      rw [Expr.renderEntries, List.forall_mem_cons]
      exact ⟨feedless_append named (feedless_render valued),
        feedless_renderEntries follows⟩
end

/-- Expressions that begin with the name of a variable. -/
def Expr.Rooted : Expr → Prop
  | .variable name => Text.isIdentifier name = true
  | .field object _ | .index object _ | .invoke object _ _ => object.Rooted
  | _ => False

/-- Texts that go on after a variable: with a field, a call or an index, if there is
anything. -/
def Selects (text : String) : Prop :=
  ∀ char ∈ text.toList.head?, char = '.' ∨ char = '['

theorem selects_append {first second : String} (begins : Selects first)
    (follows : Selects second) :
    Selects (first ++ second) := by
  unfold Selects at *
  rw [String.toList_append, List.head?_append]
  cases head : first.toList.head? with
  | none => simpa using follows
  | some char => simpa [head] using begins

theorem exists_render_of_rooted {expression : Expr} (rooted : expression.Rooted) :
    ∃ name rest, Text.isIdentifier name = true ∧ expression.render = name ++ rest ∧
      Selects rest := by
  cases expression with
  | «variable» name =>
      exact ⟨name, "", rooted, by simp [Expr.render], by simp [Selects]⟩
  | field object label =>
      have inner : object.Rooted := rooted
      obtain ⟨name, rest, identifier, printed, begins⟩ := exists_render_of_rooted inner
      refine ⟨name, rest ++ ("." ++ label), identifier, ?_,
        selects_append begins (by simp [Selects])⟩
      simp only [Expr.render, printed, String.append_assoc]
  | index object key =>
      have inner : object.Rooted := rooted
      obtain ⟨name, rest, identifier, printed, begins⟩ := exists_render_of_rooted inner
      refine ⟨name, rest ++ ("[" ++ (key.render ++ "]")), identifier, ?_,
        selects_append begins (by simp [Selects])⟩
      simp only [Expr.render, printed, String.append_assoc]
  | invoke object method arguments =>
      have inner : object.Rooted := rooted
      obtain ⟨name, rest, identifier, printed, begins⟩ := exists_render_of_rooted inner
      refine ⟨name, rest ++ ("." ++ (method ++
          ("(" ++ (", ".intercalate (Expr.renderAll arguments) ++ ")")))), identifier,
        ?_, selects_append begins (by simp [Selects])⟩
      simp only [Expr.render, printed, String.append_assoc]
  | _ => exact absurd rooted (by simp [Expr.Rooted])

/-- A line that begins with such an expression declares nothing, whether a value is
assigned to it or not. -/
theorem lineName?_of_rooted {expression : Expr} (rooted : expression.Rooted)
    {after : String} (follows : Selects after ∨ ∃ value, after = " = " ++ value) :
    lineName? (expression.render ++ after).toList = none := by
  obtain ⟨name, rest, identifier, printed, begins⟩ := exists_render_of_rooted rooted
  have marks : ∀ char, char = '.' ∨ char = '[' → Text.continuesIdentifier char = false ∧
      Text.isBlank char = false := by
    rintro char (rfl | rfl) <;>
      exact ⟨Text.continuesIdentifier_of_mem_marks (by decide), by decide⟩
  have selected {text : String} (selects : Selects text) :
      lineName? (name.toList ++ text.toList) = none := by
    apply lineName?_of_use identifier
    · exact fun char first => (marks char (selects char first)).1
    · left
      cases head : text.toList.head? with
      | none => rfl
      | some char => exact (marks char (selects char head)).2
  rw [printed, String.append_assoc, String.toList_append]
  rcases follows with selects | ⟨value, rfl⟩
  · exact selected (selects_append begins selects)
  · cases head : rest.toList.head? with
    | none =>
        have nothing : rest.toList = [] := List.head?_eq_none_iff.mp head
        rw [String.toList_append, nothing, List.nil_append, String.toList_append]
        exact lineName?_of_use identifier (by simp) (.inr rfl)
    | some char =>
        apply selected
        unfold Selects at begins ⊢
        rwa [String.toList_append, List.head?_append_of_ne_nil]
        rintro empty
        simp [empty] at head

/-! ## Statements -/

mutual
/-- The names that a statement declares. -/
def Statement.names : Statement → List String
  | .declare name _ => [name]
  | .choose branches => Statement.namesIn branches
  | .invokeWith _ _ _ _ body => Statement.namesAll body
  | .assign _ _ | .perform _ | .call _ _ | .pass | .leave | .answer _ => []

def Statement.namesAll : List Statement → List String
  | [] => []
  | first :: rest => first.names ++ Statement.namesAll rest

def Statement.namesIn : List (Expr × List Statement) → List String
  | [] => []
  | (_, body) :: rest => Statement.namesAll body ++ Statement.namesIn rest
end

mutual
/-- Statements whose names are identifiers, and whose expressions are printed on one
line. -/
def Statement.Plain : Statement → Prop
  | .declare name value => Text.isIdentifier name = true ∧ value.Feedless
  | .assign target value => target.Rooted ∧ target.Feedless ∧ value.Feedless
  | .perform value => value.Rooted ∧ value.Feedless
  | .call function arguments =>
      Text.isIdentifier function = true ∧ Expr.FeedlessAll arguments
  | .choose branches => Statement.PlainIn branches
  | .invokeWith object method arguments parameters body =>
      object.Rooted ∧ object.Feedless ∧ '\n' ∉ method.toList ∧
        Expr.FeedlessAll arguments ∧
        (∀ parameter ∈ parameters, '\n' ∉ parameter.toList) ∧ Statement.PlainAll body
  | .pass | .leave => True
  | .answer value => value.Feedless

def Statement.PlainAll : List Statement → Prop
  | [] => True
  | first :: rest => first.Plain ∧ Statement.PlainAll rest

def Statement.PlainIn : List (Expr × List Statement) → Prop
  | [] => True
  | (condition, body) :: rest =>
      condition.Feedless ∧ Statement.PlainAll body ∧ Statement.PlainIn rest
end

theorem plainAll_append {first second : List Statement}
    (begins : Statement.PlainAll first)
    (follows : Statement.PlainAll second) : Statement.PlainAll (first ++ second) := by
  induction first with
  | nil => exact follows
  | cons statement rest ih =>
      rw [Statement.PlainAll] at begins
      rw [List.cons_append, Statement.PlainAll]
      exact ⟨begins.1, ih begins.2⟩

theorem plainAll_map {α : Type} {statement : α → Statement} {values : List α}
    (plain : ∀ value ∈ values, (statement value).Plain) :
    Statement.PlainAll (values.map statement) := by
  induction values with
  | nil => trivial
  | cons value rest ih =>
      rw [List.forall_mem_cons] at plain
      rw [List.map_cons, Statement.PlainAll]
      exact ⟨plain.1, ih plain.2⟩

theorem namesAll_append (first second : List Statement) :
    Statement.namesAll (first ++ second) = Statement.namesAll first ++
      Statement.namesAll second := by
  induction first with
  | nil => rfl
  | cons statement rest ih =>
      rw [List.cons_append, Statement.namesAll, Statement.namesAll, ih,
        List.append_assoc]

theorem namesAll_map {α : Type} (statement : α → Statement) (values : List α) :
    Statement.namesAll (values.map statement) = values.flatMap fun value =>
      (statement value).names := by
  induction values with
  | nil => rfl
  | cons value rest ih => rw [List.map_cons, Statement.namesAll, ih, List.flatMap_cons]

/-- The words that begin a statement but declare nothing. -/
theorem lineName?_word {word : String}
    (reserved : word ∈ ["if", "elif", "return", "pass", "extends", "for"])
    {ending : String} (spaced : ∀ char ∈ ending.toList.head?, char = ' ') :
    lineName? (word ++ ending).toList = none := by
  have words : ∀ word ∈ ["if", "elif", "return", "pass", "extends", "for"],
      Text.isIdentifier word = true ∧ word ∉ "static" :: declaringWords := by decide
  rw [String.toList_append]
  apply lineName?_of_word (words word reserved).1 (words word reserved).2
  intro char first
  rw [spaced char first, Text.continuesIdentifier_space]

theorem declares_declare {name : String} {value : Expr}
    (identifier : Text.isIdentifier name = true) (valued : value.Feedless) :
    Declares .variable name ("var " ++ name ++ " := " ++ value.render) := by
  refine ⟨identifier, " := " ++ value.render, ?_, nameEnds_of_append (by decide) _,
    feedless_append (by decide) (feedless_render valued)⟩
  simp only [DeclarationKind.opening, String.append_assoc]

/-- A call whose last argument is a function begins on one line. -/
theorem feedless_invokeHeader {object : Expr} {method : String} {arguments : List Expr}
    {parameters : List String} (inside : object.Feedless)
    (single : '\n' ∉ method.toList) (passed : Expr.FeedlessAll arguments)
    (named : ∀ parameter ∈ parameters, '\n' ∉ parameter.toList) :
    '\n' ∉ (object.render ++ "." ++ method ++ "("
      ++ String.join ((Expr.renderAll arguments).map (· ++ ", "))
      ++ "func(" ++ ", ".intercalate parameters ++ "):").toList := by
  have called :=
    feedless_append
      (feedless_append (feedless_render inside) (by decide : '\n' ∉ ".".toList)) single
  have opened := feedless_append called (by decide : '\n' ∉ "(".toList)
  have given :
      '\n' ∉ (String.join ((Expr.renderAll arguments).map (· ++ ", "))).toList := by
    apply feedless_join
    rw [List.forall_mem_map]
    exact fun text among =>
      feedless_append (feedless_renderAll passed text among) (by decide)
  have received := feedless_intercalate (by decide : '\n' ∉ ", ".toList) named
  exact feedless_append (feedless_append
    (feedless_append (feedless_append opened given) (by decide)) received) (by decide)

mutual
/-- A plain statement declares its variables and no other names, at every depth. -/
theorem namesAt_steps {statement : Statement} (plain : statement.Plain) (depth : Nat) :
    namesAt depth statement.steps = statement.names := by
  cases statement with
  | declare name value =>
      obtain ⟨identifier, valued⟩ := by simpa only [Statement.Plain] using plain
      rw [Statement.steps, Statement.names]
      exact (declares_declare identifier valued).namesAt_eq depth
  | assign target value =>
      obtain ⟨rooted, inside, valued⟩ := by simpa only [Statement.Plain] using plain
      have assigned :=
        feedless_append (feedless_render inside) (by decide : '\n' ∉ " = ".toList)
      rw [Statement.steps, Statement.names]
      apply namesAt_line_eq_nil (feedless_append assigned (feedless_render valued))
      rw [String.append_assoc]
      exact lineName?_of_rooted rooted (.inr ⟨value.render, rfl⟩)
  | perform value =>
      obtain ⟨rooted, inside⟩ := by simpa only [Statement.Plain] using plain
      have bare : lineName? (value.render ++ "").toList = none :=
        lineName?_of_rooted rooted (.inl (by simp [Selects]))
      rw [Statement.steps, Statement.names]
      rw [String.append_empty] at bare
      exact namesAt_line_eq_nil (feedless_render inside) bare depth
  | call function arguments =>
      obtain ⟨identifier, passed⟩ := by simpa only [Statement.Plain] using plain
      have bracket : Text.continuesIdentifier '(' = false ∧ Text.isBlank '(' = false :=
        ⟨Text.continuesIdentifier_of_mem_marks (by decide), by decide⟩
      have given :=
        feedless_intercalate (by decide : '\n' ∉ ", ".toList)
          (feedless_renderAll passed)
      have called :=
        feedless_append (feedless_of_isIdentifier identifier)
          (by decide : '\n' ∉ "(".toList)
      rw [Statement.steps, Statement.names]
      apply namesAt_line_eq_nil
        (feedless_append (feedless_append called given) (by decide))
      simp only [String.append_assoc, String.toList_append]
      exact lineName?_of_use identifier (by simpa using bracket.1)
        (.inl (by simpa using bracket.2))
  | choose branches =>
      rw [Statement.steps, Statement.names]
      exact namesAt_branchSteps (by simpa only [Statement.Plain] using plain) true depth
  | invokeWith object method arguments parameters body =>
      obtain ⟨rooted, inside, single, passed, named, within⟩ := by
        simpa only [Statement.Plain] using plain
      have first : namesAt depth [.line (object.render ++ "." ++ method ++ "("
          ++ String.join ((Expr.renderAll arguments).map (· ++ ", "))
          ++ "func(" ++ ", ".intercalate parameters ++ "):")] = [] := by
        apply namesAt_line_eq_nil (feedless_invokeHeader inside single passed named)
        simp only [String.append_assoc]
        exact lineName?_of_rooted rooted (.inl (by simp [Selects]))
      have last : namesAt depth [.line ")"] = [] := by
        apply namesAt_line_eq_nil (by decide) (by decide +kernel)
      rw [Statement.steps, Statement.names, namesAt_cons, first, namesAt_cons,
        namesAt_indented, namesAt_stepsAll within, last, List.append_nil,
        List.nil_append]
  | pass => exact namesAt_line_eq_nil (by decide) (by decide) depth
  | leave => exact namesAt_line_eq_nil (by decide) (by decide) depth
  | answer value =>
      have valued : value.Feedless := by simpa only [Statement.Plain] using plain
      rw [Statement.steps, Statement.names]
      apply namesAt_line_eq_nil (feedless_append (by decide) (feedless_render valued))
      have word : "return " = "return" ++ " " := by decide
      rw [word, String.append_assoc]
      exact lineName?_word (by decide) (by simp)

theorem namesAt_stepsAll {body : List Statement} (plain : Statement.PlainAll body)
    (depth : Nat) :
    namesAt depth (Statement.stepsAll body) = Statement.namesAll body := by
  cases body with
  | nil => rw [Statement.stepsAll, Statement.namesAll, namesAt_nil]
  | cons first rest =>
      obtain ⟨begins, follows⟩ := by simpa only [Statement.PlainAll] using plain
      rw [Statement.stepsAll, Statement.namesAll, namesAt_append, namesAt_steps begins,
        namesAt_stepsAll follows]

theorem namesAt_branchSteps {branches : List (Expr × List Statement)}
    (plain : Statement.PlainIn branches) (first : Bool) (depth : Nat) :
    namesAt depth (Statement.branchSteps first branches) =
      Statement.namesIn branches := by
  cases branches with
  | nil => rw [Statement.branchSteps, Statement.namesIn, namesAt_nil]
  | cons branch rest =>
      obtain ⟨condition, body⟩ := branch
      obtain ⟨tested, within, follows⟩ := by simpa only [Statement.PlainIn] using plain
      have header :
          namesAt depth [.line (branchWord first ++ condition.render ++ ":")] = [] := by
        have single : '\n' ∉ (branchWord first).toList := by cases first <;> decide
        apply namesAt_line_eq_nil (feedless_append
          (feedless_append single (feedless_render tested)) (by decide))
        have word : branchWord first = (if first then "if" else "elif") ++ " " := by
          cases first <;> decide
        rw [word, String.append_assoc, String.append_assoc]
        exact lineName?_word (by cases first <;> decide) (by simp)
      rw [Statement.branchSteps, Statement.namesIn, namesAt_cons, namesAt_block, header,
        namesAt_stepsAll within, namesAt_branchSteps follows, List.nil_append]
end

end GodotSdk.Script
