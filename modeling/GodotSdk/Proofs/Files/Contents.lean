import GodotSdk.FileTree
import Mathlib.Data.List.Infix

/-!
# What a tree holds

Which directories there are, and which files can be written, depends on the files of a
tree and not on their texts. Files of one directory do not keep each other from being
written, and a text that is written where it is already changes nothing.
-/

namespace GodotSdk.FileTree

variable {tree written : FileTree} {directory path : FilePath}
  {name other text : String}

theorem isFile_iff : tree.isFile path = true ↔ ∃ file ∈ tree.files, path = file.1 := by
  rw [isFile, get?, Option.isSome_iff_ne_none, ne_eq, List.lookup_eq_none_iff]
  simp

theorem isDirectory_iff :
    tree.isDirectory path = true ↔
      path = [] ∨ ∃ file, tree.isFile file = true ∧ path <+: file ∧ path ≠ file := by
  simp [isDirectory, isFile_iff]

/-- Two trees have the same files with the same texts, in the same directories. -/
structure Alike (left right : FileTree) : Prop where
  texts : ∀ path, left.get? path = right.get? path
  directories : ∀ path, left.isDirectory path = right.isDirectory path

/-- The files tell which directories there are. -/
theorem alike_of_get? {left right : FileTree}
    (texts : ∀ path, left.get? path = right.get? path) :
    left.Alike right where
  texts := texts
  directories := by
    intro path
    have files : ∀ file, left.isFile file = right.isFile file := by
      intro file
      rw [isFile, isFile, texts]
    rw [Bool.eq_iff_iff, isDirectory_iff, isDirectory_iff]
    simp only [files]

/-! ## Files that can be written -/

/-- Nothing keeps a file from being written: its directory can be created, and its name
is neither too long nor taken by a directory. -/
structure Admits (tree : FileTree) (directory : FilePath) (name : String) : Prop where
  creates : tree.canCreate directory = true
  free : tree.isDirectory (directory ++ [name]) = false
  short : name.utf8ByteSize ≤ FilePath.longestName

theorem write_eq_ok_iff :
    tree.write directory name text = .ok written ↔
      tree.Admits directory name ∧
        written = ⟨putFile (directory ++ [name]) text tree.files⟩ := by
  constructor
  · intro done
    simp only [write] at done
    split at done
    · cases done
    · next creates =>
        split at done
        · cases done
        · next admitted =>
            simp only [Bool.or_eq_true, decide_eq_true_eq, not_or, Bool.not_eq_true,
              Nat.not_lt] at admitted
            cases done
            exact ⟨⟨by simpa using creates, admitted.1, admitted.2⟩, rfl⟩
  · rintro ⟨admits, rfl⟩
    simp [write, admits.creates, admits.free, Nat.not_lt.mpr admits.short]

theorem admits_of_write (done : tree.write directory name text = .ok written) :
    tree.Admits directory name :=
  (write_eq_ok_iff.mp done).1

theorem isFile_write (done : tree.write directory name text = .ok written) :
    written.isFile path = true ↔
      path = directory ++ [name] ∨ tree.isFile path = true := by
  rw [isFile, isFile, get?_write done]
  split <;> simp [*]

theorem canCreate_iff :
    tree.canCreate path = true ↔
      (∀ step ∈ path, step.utf8ByteSize ≤ FilePath.longestName) ∧
        ∀ file, tree.isFile file = true → ¬ file <+: path := by
  have blocks (file : FilePath) : ¬ file <+: path ↔ file.isPrefixOf path = false := by
    rw [← List.isPrefixOf_iff_prefix, Bool.not_eq_true]
  have files : (∀ file, tree.isFile file = true → ¬ file <+: path) ↔
      ∀ file ∈ tree.files, file.1.isPrefixOf path = false := by
    constructor
    · intro clear file member
      exact (blocks file.1).mp (clear file.1 (isFile_iff.mpr ⟨file, member, rfl⟩))
    · intro clear place present
      obtain ⟨file, member, rfl⟩ := isFile_iff.mp present
      exact (blocks file.1).mpr (clear file member)
  rw [files]
  simp [canCreate]

/-- A file that was written keeps no other one from being written into its directory,
and allows for none. -/
theorem admits_write_iff (done : tree.write directory name text = .ok written) :
    written.Admits directory other ↔ tree.Admits directory other := by
  -- The new file lies below the directory, so it is on the way neither to the directory
  -- nor to what lies beside it.
  have below : ¬ directory ++ [name] <+: directory := by
    intro inside
    have long := inside.length_le
    rw [List.length_append, List.length_singleton] at long
    exact Nat.not_succ_le_self _ long
  have creates : written.canCreate directory = tree.canCreate directory := by
    rw [Bool.eq_iff_iff, canCreate_iff, canCreate_iff]
    simp only [isFile_write done, forall_eq_or_imp, below, not_false_eq_true, true_and]
  have free : written.isDirectory (directory ++ [other]) =
      tree.isDirectory (directory ++ [other]) := by
    have beside : directory ++ [other] <+: directory ++ [name] →
        directory ++ [other] = directory ++ [name] :=
      fun inside => inside.eq_of_length (by simp)
    rw [Bool.eq_iff_iff, isDirectory_iff, isDirectory_iff]
    simp only [isFile_write done]
    grind
  constructor
  · rintro ⟨creatable, vacant, short⟩
    exact ⟨creates ▸ creatable, free ▸ vacant, short⟩
  · rintro ⟨creatable, vacant, short⟩
    exact ⟨creates.trans creatable, free.trans vacant, short⟩

/-! ## Texts that are there already -/

theorem putFile_of_lookup {files : List (FilePath × String)}
    (holds : files.lookup path = some text) :
    putFile path text files = files := by
  induction files with
  | nil => cases holds
  | cons file rest ih =>
      obtain ⟨first, old⟩ := file
      by_cases same : first = path
      · subst same
        obtain rfl : old = text := by simpa using holds
        simp [putFile]
      · rw [List.lookup_cons, beq_false_of_ne (Ne.symm same)] at holds
        simp [putFile, same, ih holds]

/-- Writing a text where it is already changes nothing. -/
theorem write_of_get? (admits : tree.Admits directory name)
    (holds : tree.get? (directory ++ [name]) = some text) :
    tree.write directory name text = .ok tree := by
  rw [write_eq_ok_iff, putFile_of_lookup holds]
  exact ⟨admits, rfl⟩

end GodotSdk.FileTree
