/-!
# File trees

The files below a directory, by the steps that lead to them. A directory exists as long
as a file lies below it, and directories are created as files need them. Files are
looked up by the text of a path, each of whose steps must be there to be taken. Writing
changes one file and no other (`get?_write`).
-/

namespace GodotSdk

/-- The steps from the root of a tree to a file or directory. -/
abbrev FilePath := List String

/-- Files with their texts. Of two with the same path the first one counts. -/
structure FileTree where
  files : List (FilePath × String)
deriving Repr

/-- What cannot be done to write a file: create its directory, or write the file
itself. -/
inductive WriteError
  | directory
  | file
deriving DecidableEq, Repr

/-- Why a file cannot be read: it is not there, or what is there is no file to read. -/
inductive LookupError
  | missing
  | blocked
deriving DecidableEq, Repr

namespace FilePath

/-- The longest name of a file or directory, in bytes. -/
def longestName : Nat := 255

/-- The longest text of a path, in bytes. -/
def longestText : Nat := 4095

/-- Whether a path starts at the root of the file system. -/
def isAbsolute (text : String) : Bool :=
  text.startsWith "/"

/-- Whether a step stays where it is. -/
def isIdle (step : String) : Bool :=
  step == "" || step == "."

/-- Take steps without looking. There is no place to arrive at above the root of the
tree. -/
def advance (here : FilePath) : List String → Option FilePath
  | [] => some here
  | step :: rest =>
      if isIdle step then advance here rest
      else if step == ".." then if here.isEmpty then none
        else advance here.dropLast rest
      else advance (here ++ [step]) rest

/-- The place below the root of the tree that a path denotes, whether or not something
is there. -/
def ofText? (text : String) : Option FilePath :=
  if isAbsolute text then none else advance [] (text.splitOn "/")

end FilePath

namespace FileTree

def empty : FileTree := ⟨[]⟩

/-- The text of a file, if it is there. -/
def get? (tree : FileTree) (path : FilePath) : Option String :=
  tree.files.lookup path

def isFile (tree : FileTree) (path : FilePath) : Bool :=
  (tree.get? path).isSome

/-- Whether a directory is there. The root always is. -/
def isDirectory (tree : FileTree) (path : FilePath) : Bool :=
  path.isEmpty || tree.files.any fun (file, _) => path.isPrefixOf file && path != file

/-- Take steps through the tree. Each is taken from a directory that is there, even one
that stays where it is. -/
def walk (tree : FileTree) (here : FilePath) : List String → Except LookupError FilePath
  | [] => .ok here
  | step :: rest =>
      if tree.isFile here then .error .blocked
      else if !tree.isDirectory here then .error .missing
      else if FilePath.isIdle step then tree.walk here rest
      else if step == ".." then if here.isEmpty then .error .missing
        else tree.walk here.dropLast rest
      else if FilePath.longestName < step.utf8ByteSize then .error .blocked
      else tree.walk (here ++ [step]) rest

/-- The text of the file at a path. Nothing is found outside the tree. -/
def read (tree : FileTree) (path : String) : Except LookupError String := do
  if FilePath.longestText < path.utf8ByteSize then throw .blocked
  if FilePath.isAbsolute path then throw .missing
  let place ← tree.walk [] (path.splitOn "/")
  match tree.get? place with
  | some text => return text
  | none => throw (if tree.isDirectory place then .blocked else .missing)

/-- Put the text of a file in place. -/
def putFile (path : FilePath) (text : String) :
    List (FilePath × String) → List (FilePath × String)
  | [] => [(path, text)]
  | (other, old) :: rest =>
      if other = path then (path, text) :: rest
        else (other, old) :: putFile path text rest

/-- A file that was put in place has its text, and all others keep theirs. -/
theorem lookup_putFile (path other : FilePath) (text : String)
    (files : List (FilePath × String)) :
    (putFile path text files).lookup other = if other = path then some text
      else files.lookup other := by
  induction files with
  | nil =>
      by_cases same : other = path
      · simp [putFile, same]
      · simp [putFile, List.lookup_cons, same, beq_false_of_ne same]
  | cons file rest ih =>
      obtain ⟨first, old⟩ := file
      by_cases replaced : first = path
      · subst replaced
        by_cases same : other = first
        · simp [putFile, same]
        · simp [putFile, List.lookup_cons, same, beq_false_of_ne same]
      · by_cases same : other = first
        · subst same
          simp [putFile, replaced]
        · simp [putFile, List.lookup_cons, replaced, beq_false_of_ne same, ih]

/-- Whether a directory can be created, or is there already: no name on the way is too
long or taken by a file. -/
def canCreate (tree : FileTree) (path : FilePath) : Bool :=
  path.all (·.utf8ByteSize ≤ FilePath.longestName)
    && tree.files.all fun (file, _) => !file.isPrefixOf path

/-- Write a file into a directory, which is created if need be. -/
def write (tree : FileTree) (directory : FilePath) (name text : String) :
    Except WriteError FileTree :=
  let path := directory ++ [name]
  if !tree.canCreate directory then .error .directory
  else if tree.isDirectory path || FilePath.longestName < name.utf8ByteSize then
    .error .file
  else .ok ⟨putFile path text tree.files⟩

/-- Writing changes one file only. -/
theorem get?_write {tree written : FileTree} {directory : FilePath} {name text : String}
    (done : tree.write directory name text = .ok written) (path : FilePath) :
    written.get? path = if path = directory ++ [name] then some text
      else tree.get? path := by
  simp only [write] at done
  split at done
  · contradiction
  · split at done
    · contradiction
    · cases done
      exact lookup_putFile (directory ++ [name]) path text tree.files

end FileTree

end GodotSdk
