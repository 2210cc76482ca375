import GodotSdk.Proofs.Script.Value
import GodotSdk.Script.Code

/-!
# Running scripts

The meaning of expressions and statements. A name stands for a local variable or
parameter, else for a member of the object that a function belongs to, else for a class.
Every dictionary and object of a generated function is held by one variable only, so
values are kept in their variables and not behind references. Only a dictionary that is
put into itself could tell the difference.
-/

namespace GodotSdk.Script

/-- A method call that was handed a function, to be run when its result is there. -/
structure Sent where
  receiver : Value
  method : String
  arguments : List Value
  parameters : List String
  body : List Statement

/-- What a running function can see, and what it has done to the outside. -/
structure State where
  /-- Local variables and parameters, the innermost first. -/
  locals : List (String × Value)
  members : List (String × Value)
  classes : List String
  /-- The arguments of each call of a callable. -/
  notified : List (List Value)
  /-- What was written to the error log. -/
  logged : List Value
  sent : List Sent

/-- How a statement ends. A fault is what the language refuses to do; it ends the
function. -/
inductive Ending
  | next
  | left
  | answered (value : Value)
  | fault

namespace State

/-- What a name stands for. -/
def get? (state : State) (name : String) : Option Value :=
  match state.locals.lookup name with
  | some value => some value
  | none =>
      match state.members.lookup name with
      | some value => some value
      | none => if name ∈ state.classes then some (.type name) else none

/-- Give a variable or a member another value. -/
def set? (state : State) (name : String) (value : Value) : Option State :=
  if (state.locals.lookup name).isSome then
    some { state with locals := putEntry name value state.locals }
  else if (state.members.lookup name).isSome then
    some { state with members := putEntry name value state.members }
  else none

mutual
/-- The value of an expression. -/
def eval (state : State) : Expr → Option Value
  | .text value => some (.string value)
  | .emptyDictionary => some (.dictionary [])
  | .null => some .null
  | .variable name => state.get? name
  | .field object label => do (← state.eval object).field? label
  | .index object key => do (← state.eval object).index? (← state.eval key)
  | .invoke object method arguments => do
      (← state.eval object).method? method (← state.evalAll arguments)
  | .dictionary entries => do return .dictionary (← state.evalEntries entries)
  | .not operand => do return .bool !(← state.eval operand).truthy
  | .and left right => do
      if (← state.eval left).truthy then return .bool (← state.eval right).truthy
      else return .bool false

def evalAll (state : State) : List Expr → Option (List Value)
  | [] => some []
  | first :: rest => do return (← state.eval first) :: (← state.evalAll rest)

/-- The entries of a dictionary, whose keys are texts. -/
def evalEntries (state : State) : List (Expr × Expr) → Option (List (String × Value))
  | [] => some []
  | (key, value) :: rest => do
      match ← state.eval key with
      | .string key => return (key, ← state.eval value) :: (← state.evalEntries rest)
      | _ => none
end

/-- Put a value into a place. What holds the place changes with it. -/
def store (state : State) : Expr → Value → Option State
  | .variable name, value => state.set? name value
  | .field object label, value => do
      state.store object (← (← state.eval object).setField? label value)
  | .index object key, value => do
      state.store object (← (← state.eval object).setIndex? (← state.eval key) value)
  | _, _ => none

/-- Evaluate an expression for its effect, which is that a callable is called. -/
def perform (state : State) : Expr → Option State
  | .invoke object "call" arguments => do
      match ← state.eval object with
      | .callable true =>
          return { state with
            notified := state.notified ++ [← state.evalAll arguments] }
      | _ => none
  | value => (state.eval value).map fun _ => state

/-- Write to the error log, which is all that generated code does by a function that is
not a method. -/
def call (state : State) (function : String) (arguments : List Expr) :
    Option State := do
  if function = "push_error" then
    return { state with logged := state.logged ++ (← state.evalAll arguments) }
  else none

/-- Call a method that takes a function. -/
def send (state : State) (object : Expr) (method : String) (arguments : List Expr)
    (parameters : List String) (body : List Statement) : Option State := do
  let sent := ⟨← state.eval object, method, ← state.evalAll arguments, parameters, body⟩
  return { state with sent := state.sent ++ [sent] }

/-- Go on in the next state, if there is one. -/
def proceed (state : State) : Option State → State × Ending
  | some after => (after, .next)
  | none => (state, .fault)

/-- Forget the variables that were declared in a block since a state before it. -/
def leave (state before : State) : State :=
  { state with
    locals := state.locals.drop (state.locals.length - before.locals.length) }

end State

namespace Statement

mutual
/-- Run a statement. -/
def run : Statement → State → State × Ending
  | .declare name value, state =>
      state.proceed ((state.eval value).map fun value =>
        { state with locals := (name, value) :: state.locals })
  | .assign target value, state =>
      state.proceed ((state.eval value).bind (state.store target))
  | .perform value, state => state.proceed (state.perform value)
  | .call function arguments, state => state.proceed (state.call function arguments)
  | .choose branches, state => runBranches branches state
  | .invokeWith object method arguments parameters body, state =>
      state.proceed (state.send object method arguments parameters body)
  | .pass, state => (state, .next)
  | .leave, state => (state, .left)
  | .answer value, state =>
      match state.eval value with
      | some value => (state, .answered value)
      | none => (state, .fault)

/-- Run statements in order until one ends the function. -/
def runAll : List Statement → State → State × Ending
  | [], state => (state, .next)
  | first :: rest, state =>
      match first.run state with
      | (after, .next) => runAll rest after
      | (after, ending) => (after, ending)

/-- Run the first branch whose condition holds. -/
def runBranches : List (Expr × List Statement) → State → State × Ending
  | [], state => (state, .next)
  | (condition, body) :: rest, state =>
      match state.eval condition with
      | none => (state, .fault)
      | some value =>
          if value.truthy then
            let (after, ending) := runAll body state
            (after.leave state, ending)
          else runBranches rest state
end

end Statement

/-! ## Variables -/

namespace State

variable {state : State} {name : String} {value old : Value}

theorem get?_of_local (found : state.locals.lookup name = some value) :
    state.get? name = some value := by
  simp [get?, found]

/-- The state after a local variable got another value. -/
def assign (state : State) (name : String) (value : Value) : State :=
  { state with locals := putEntry name value state.locals }

theorem set?_of_local (found : state.locals.lookup name = some old) :
    state.set? name value = some (state.assign name value) := by
  simp [set?, assign, found]

theorem lookup_assign (state : State) (name : String) (value : Value) (other : String) :
    (state.assign name value).locals.lookup other =
      if other = name then some value else state.locals.lookup other :=
  lookup_putEntry name value state.locals other

theorem assign_of_lookup (found : state.locals.lookup name = some value) :
    state.assign name value = state := by
  simp [assign, putEntry_of_lookup found]

@[simp] theorem assign_assign (state : State) (name : String) (first second : Value) :
    (state.assign name first).assign name second = state.assign name second := by
  simp [assign, putEntry_putEntry]

@[simp] theorem leave_self (state : State) : state.leave state = state := by
  simp [leave]

theorem leave_assign (found : state.locals.lookup name = some old) :
    (state.assign name value).leave state = state.assign name value := by
  have bound : (state.locals.lookup name).isSome = true := by simp [found]
  simp [leave, assign, length_putEntry value bound]

theorem store_field {label : String} (found : state.locals.lookup name = some old) :
    state.store (.field (.variable name) label) value =
      (old.setField? label value).map (state.assign name) := by
  simp only [store, eval, get?_of_local found, Option.bind_eq_bind, Option.bind_some]
  cases old.setField? label value with
  | none => rfl
  | some changed => simp [set?_of_local found]

theorem store_index {key : Expr} {place : Value}
    (found : state.locals.lookup name = some old)
    (keyed : state.eval key = some place) :
    state.store (.index (.variable name) key) value =
      (old.setIndex? place value).map (state.assign name) := by
  simp only [store, eval, get?_of_local found, keyed, Option.bind_eq_bind,
    Option.bind_some]
  cases old.setIndex? place value with
  | none => rfl
  | some changed => simp [set?_of_local found]

end State

/-! ## Sequences and branches -/

namespace Statement

variable {state after : State} {first : Statement} {rest body : List Statement}
  {condition : Expr}
  {value : Value}

theorem runAll_cons_of_next (ran : first.run state = (after, .next)) :
    runAll (first :: rest) state = runAll rest after := by
  simp [runAll, ran]

theorem runAll_append_of_next (after : State) (rest : List Statement)
    {before : List Statement} (ran : runAll before state = (after, .next)) :
    runAll (before ++ rest) state = runAll rest after := by
  induction before generalizing state with
  | nil =>
      simp only [runAll, Prod.mk.injEq, and_true] at ran
      rw [ran, List.nil_append]
  | cons first others ih =>
      cases firstRun : first.run state with
      | mk middle ending =>
          cases ending with
          | next =>
              rw [runAll_cons_of_next firstRun] at ran
              rw [List.cons_append, runAll_cons_of_next firstRun]
              exact ih ran
          | _ => simp [runAll, firstRun] at ran

theorem runBranches_cons {branches : List (Expr × List Statement)}
    (evaluated : state.eval condition = some value) :
    runBranches ((condition, body) :: branches) state =
      if value.truthy then ((runAll body state).1.leave state, (runAll body state).2)
      else runBranches branches state := by
  simp [runBranches, evaluated]

theorem run_when (evaluated : state.eval condition = some value) :
    (Statement.when condition body).run state =
      if value.truthy then ((runAll body state).1.leave state, (runAll body state).2)
      else (state, .next) := by
  rw [Statement.when, run, runBranches_cons evaluated, runBranches]

theorem runAll_singleton (statement : Statement) (state : State) :
    runAll [statement] state = statement.run state := by
  simp only [runAll]
  split
  · next ran => rw [ran]
  · next ran => rw [ran]

end Statement

end GodotSdk.Script
