import GodotSdk.FileTree
import GodotSdk.Naming.SdkNames
import Mathlib.Data.String.Basic

/-!
# Steps of a path as text

The text of a path has its steps between slashes. If no step has a slash in it or stands
for a directory that is there already, the text leads from any place to the one that the
steps tell, and nowhere else.
-/

namespace GodotSdk

/-! ## Cutting a text at slashes -/

theorem splitOnAux_slash (text : String) (start here : String.Pos.Raw)
    (parts : List String) :
    text.splitOnAux "/" start here 0 parts =
      text.splitAux (· == '/') start here parts := by
  have slash : String.Pos.Raw.get "/" 0 = '/' := by decide
  have one : String.Pos.Raw.next "/" 0 = ⟨1⟩ := by decide
  have whole : String.Pos.Raw.atEnd "/" ⟨1⟩ = true := by decide
  fun_induction String.splitAux with
  | case1 start here parts ended =>
      rw [String.splitOnAux, if_pos ended]
  | case2 start here parts inside _ found next ih =>
      have char : String.Pos.Raw.get text here = '/' := by simpa using found
      -- A slash is one byte long, so the part before it ends where it was found.
      have before : (String.Pos.Raw.next text here).unoffsetBy ⟨1⟩ = here := by
        simp [String.Pos.Raw.next, char, String.Pos.Raw.ext_iff, Char.utf8Size]
      rw [String.splitOnAux, if_neg inside, slash, if_pos found]
      simp only [one, whole, before, if_true]
      exact ih
  | case3 start here parts inside _ other ih =>
      have stays : here.unoffsetBy 0 = here := by simp
      rw [String.splitOnAux, if_neg inside, slash, if_neg other, stays]
      exact ih

theorem splitOn_slash (text : String) :
    text.splitOn "/" = (text.toList.splitOn '/').map String.ofList := by
  have proper : ("/" == "") = false := by decide
  rw [String.splitOn, proper, if_neg Bool.false_ne_true, splitOnAux_slash]
  exact String.splitToList_of_valid text (· == '/')

/-- Steps without slashes are found again in the text of their path. -/
theorem splitOn_renderFilePath {steps : List String} (nonempty : steps ≠ [])
    (undivided : ∀ step ∈ steps, '/' ∉ step.toList) :
    (renderFilePath steps).splitOn "/" = steps := by
  have parts : ∀ part ∈ steps.map String.toList, '/' ∉ part := by simpa using undivided
  have text : (renderFilePath steps).toList =
      ['/'].intercalate (steps.map String.toList) :=
    String.toList_intercalate
  rw [splitOn_slash, text, List.splitOn_intercalate '/' parts (by simpa using nonempty),
    List.map_map]
  exact List.map_id'' (fun step => String.ofList_toList) steps

namespace FilePath

/-! ## Taking steps -/

/-- A step that leads to an entry of the directory where it is taken, on systems with
either slash. -/
structure Plain (step : String) : Prop where
  undivided : '/' ∉ step.toList ∧ '\\' ∉ step.toList
  moves : isIdle step = false
  descends : step ≠ ".."

theorem advance_of_plain (here : FilePath) {steps : List String}
    (plain : ∀ step ∈ steps, Plain step) :
    advance here steps = some (here ++ steps) := by
  induction steps generalizing here with
  | nil => simp [advance]
  | cons step rest ih =>
      rw [List.forall_mem_cons] at plain
      simp [advance, plain.1.moves, plain.1.descends, ih (here ++ [step]) plain.2]

/-- The text of a path with plain steps leads where its steps lead. -/
theorem advance_splitOn (here : FilePath) {steps : List String} (nonempty : steps ≠ [])
    (plain : ∀ step ∈ steps, Plain step) :
    advance here ((renderFilePath steps).splitOn "/") = some (here ++ steps) := by
  rw [splitOn_renderFilePath nonempty fun step member =>
    (plain step member).undivided.1, advance_of_plain here plain]

end FilePath

/-- A file at the root of a tree is read by its name. -/
theorem FileTree.read_of_plain {tree : FileTree} {name text : String}
    (root : tree.isFile [] = false) (stored : tree.get? [name] = some text)
    (step : FilePath.Plain name) (short : name.utf8ByteSize ≤ FilePath.longestName)
    (relative : FilePath.isAbsolute name = false) :
    tree.read name = .ok text := by
  have steps : name.splitOn "/" = [name] := by
    rw [splitOn_slash, List.splitOn_eq_singleton step.undivided.1]
    simp
  have fits : ¬ FilePath.longestName < name.utf8ByteSize := Nat.not_lt.mpr short
  have brief : ¬ FilePath.longestText < name.utf8ByteSize :=
    Nat.not_lt.mpr (short.trans (by decide))
  have walked : tree.walk [] [name] = .ok [name] := by
    simp [FileTree.walk, root, FileTree.isDirectory, step.moves, step.descends, fits]
  simp only [FileTree.read, brief, relative, steps, walked, stored, if_false,
    Bool.false_eq_true, bind, Except.bind, pure, Except.pure]

end GodotSdk
