/-!
# TOML values

What a TOML document consists of. Of floats and points in time no more is kept than a
configuration can tell apart.
-/

namespace GodotSdk.Toml

inductive Value
  | text (value : String)
  | bool (value : Bool)
  | integer (value : Int)
  /-- A float, which may be out of range. -/
  | float (inRange : Bool)
  | time
  | array (items : List Value)
  | table (entries : List (String × Value))
deriving Repr

/-- How a table came to be: to hold another table, by a dotted key, or by a header of
its own. -/
inductive TableKind
  | implied
  | dotted
  | declared
deriving DecidableEq, Repr

/-- An entry of a table that is being read. A value is complete; tables, and the last of
several tables, may still grow. -/
inductive Item
  | value (value : Value)
  | table (kind : TableKind) (entries : List (String × Item))
  | tables (elements : List (List (String × Item)))

/-- The entries of a table that is being read. -/
abbrev Entries := List (String × Item)

mutual
/-- The value of a complete item. -/
def Item.toValue : Item → Value
  | .value value => value
  | .table _ entries => .table (entryValues entries)
  | .tables elements => .array (elementValues elements)

def entryValues : List (String × Item) → List (String × Value)
  | [] => []
  | (key, item) :: rest => (key, item.toValue) :: entryValues rest

def elementValues : List (List (String × Item)) → List Value
  | [] => []
  | entries :: rest => .table (entryValues entries) :: elementValues rest
end

/-- Put an item in the place of the one with the same key, or at the end. -/
def putItem (key : String) (item : Item) : Entries → Entries
  | [] => [(key, item)]
  | (other, old) :: rest =>
      if other = key then (key, item) :: rest else (other, old) :: putItem key item rest

/-- Change the table at the end of a path, which is created if need be. Dotted keys do
not enter tables that have a header, and nothing enters a complete value. -/
def changeAt (dotted : Bool) (change : TableKind → Entries → Option Entries)
    (kind : TableKind) (entries : Entries) : List String → Option Entries
  | [] => change kind entries
  | key :: rest => do
      match entries.lookup key with
      | none =>
          let kind := if dotted then TableKind.dotted else .implied
          let inner ← changeAt dotted change kind [] rest
          return putItem key (.table kind inner) entries
      | some (.table kind inner) =>
          if dotted && kind = .declared then none
          else return putItem key (.table kind
            (← changeAt dotted change kind inner rest)) entries
      | some (.tables elements) =>
          match elements.getLast? with
          | some last =>
              let inner ← changeAt dotted change .declared last rest
              return putItem key (.tables (elements.dropLast ++ [inner])) entries
          | none => none
      | some (.value _) => none

/-- Add the value of a dotted key to a table. -/
def addValue (path : List String) (key : String) (value : Value) (entries : Entries) :
    Option Entries :=
  changeAt true (fun kind inner =>
    -- A key with dots ends in a table that such keys made, and a key without dots in
    -- the table itself.
    if path.isEmpty = (kind = TableKind.dotted) || (inner.lookup key).isSome then none
    else some (inner ++ [(key, .value value)])) .declared entries path

/-- Begin a table under a header. It may not have been begun before. -/
def addTable (key : String) (entries : Entries) : Option Entries :=
  match entries.lookup key with
  | none => some (entries ++ [(key, .table .declared [])])
  | some (.table .implied inner) => some (putItem key (.table .declared inner) entries)
  | _ => none

/-- Begin the next of several tables under a header. -/
def addElement (key : String) (entries : Entries) : Option Entries :=
  match entries.lookup key with
  | none => some (entries ++ [(key, .tables [[]])])
  | some (.tables elements) => some (putItem key (.tables (elements ++ [[]])) entries)
  | _ => none

end GodotSdk.Toml
