import GodotSdk.CommandLine.Run
import GodotSdk.Proofs.Files.Steps
import GodotSdk.Proofs.Naming.MethodNames
import GodotSdk.Proofs.Sdk.Acceptance
import GodotSdk.Proofs.Sdk.Writing

/-!
# Confinement

Where an SDK is written, whether or not that succeeds, no file changes but the scripts
of its brand in the directory of its addon. Brands and names of APIs are identifiers, so
no text that becomes a part of a path has a slash or a dot in it, and the directory and
the scripts are single steps. The configuration and the inputs are not among the
scripts.
-/

namespace GodotSdk

/-! ## Characters of paths -/

namespace Text

/-- The characters that mean something in a path. -/
def pathMarks : List Char :=
  ['/', '\\', '.']

theorem continuesIdentifier_of_mem_pathMarks {mark : Char} (member : mark ∈ pathMarks) :
    continuesIdentifier mark = false := by
  have every : pathMarks.all (fun mark => !continuesIdentifier mark) = true := by decide
  simpa using List.all_eq_true.mp every mark member

theorem not_mem_of_continues {name : String}
    (continues : ∀ char ∈ name.toList, continuesIdentifier char = true)
    {mark : Char} (member : mark ∈ pathMarks) : mark ∉ name.toList := by
  intro inside
  have outside := continuesIdentifier_of_mem_pathMarks member
  rw [continues mark inside] at outside
  cases outside

theorem eq_of_mark_mem_lowerChar {char mark : Char} (member : mark ∈ pathMarks)
    (image : mark ∈ lowerChar char) :
    mark = char := by
  have low : pathMarks.all (fun mark => mark.toNat < 97 && mark != '\x00') = true := by
    decide
  have bounds := List.all_eq_true.mp low mark member
  rw [Bool.and_eq_true, decide_eq_true_eq, bne_iff_ne] at bounds
  rcases mem_lowerChar image with ⟨same, _⟩ | high | nul
  · exact same
  · omega
  · exact absurd nul bounds.2

/-- Lower case brings none of these characters into a text. -/
theorem mark_mem_of_mem_lowerAfter {mark : Char} (member : mark ∈ pathMarks)
    {reversed text : List Char}
    (inside : mark ∈ lowerAfter reversed text) : mark ∈ text := by
  induction text generalizing reversed with
  | nil => cases inside
  | cons char rest ih =>
      unfold lowerAfter at inside
      rw [List.mem_cons]
      rcases List.mem_append.mp inside with here | later
      · left
        split at here
        · rw [List.mem_singleton] at here
          have sigmas : pathMarks.all (fun mark => mark != 'ς' && mark != 'σ') =
              true := by decide
          have other := List.all_eq_true.mp sigmas mark member
          split at here <;> simp [here] at other
        · exact eq_of_mark_mem_lowerChar member here
      · exact .inr (ih later)

theorem not_mem_lowercase {name : String} (identifier : isIdentifier name = true)
    {mark : Char} (member : mark ∈ pathMarks) : mark ∉ (lowercase name).toList := by
  rw [lowercase, String.toList_ofList]
  intro inside
  exact not_mem_of_continues (continuesIdentifier_of_mem identifier) member
    (mark_mem_of_mem_lowerAfter member inside)

theorem lowerAfter_ne_nil {text : List Char} (nonempty : text ≠ []) :
    lowerAfter [] text ≠ [] := by
  cases text with
  | nil => exact absurd rfl nonempty
  | cons char rest =>
      have image : lowerChar char ≠ [] := by
        unfold lowerChar
        split
        · simp
        · split <;> simp
      unfold lowerAfter
      split <;> simp [image]

end Text

/-! ## Places of scripts -/

namespace FilePath

theorem plain_of_marks {step : String} (nonempty : step.toList ≠ [])
    (clean : ∀ mark ∈ Text.pathMarks, mark ∉ step.toList) : Plain step where
  undivided := ⟨clean '/' (by decide), clean '\\' (by decide)⟩
  moves := by
    have blank : step ≠ "" := by rintro rfl; exact nonempty rfl
    have dot : step ≠ "." := by rintro rfl; exact clean '.' (by decide) (by decide)
    simp [isIdle, blank, dot]
  descends := by rintro rfl; exact clean '.' (by decide) (by decide)

theorem scriptFile_ne_of_short (className : String) {other : String}
    (short : other.length < 3) :
    SdkNames.scriptFile className ≠ other := by
  rintro rfl
  have ending : ".gd".length = 3 := by decide
  rw [SdkNames.scriptFile, String.length_append, ending] at short
  omega

theorem plain_scriptFile {className : String}
    (continues : ∀ char ∈ className.toList, Text.continuesIdentifier char = true) :
    Plain (SdkNames.scriptFile className) where
  undivided := by
    have slash : '/' ∉ className.toList :=
      Text.not_mem_of_continues continues (by decide)
    have backslash : '\\' ∉ className.toList :=
      Text.not_mem_of_continues continues (by decide)
    simp [SdkNames.scriptFile, slash, backslash]
  moves := by
    have blank : SdkNames.scriptFile className ≠ "" :=
      scriptFile_ne_of_short className (by decide)
    have dot : SdkNames.scriptFile className ≠ "." :=
      scriptFile_ne_of_short className (by decide)
    simp [isIdle, blank, dot]
  descends := scriptFile_ne_of_short className (by decide)

end FilePath

/-- A place below an output directory that belongs to the SDK of a brand: it lies
directly in the directory of the addon, its name begins with the brand and ends in
`.gd`, and its path as text leads to it and to no other place. -/
structure IsScriptPlace (brand : String) (output place : FilePath) (name : String) :
    Prop where
  direct : place = output ++ ["addons", Text.lowercase brand, name]
  branded : ∃ middle, name = brand ++ middle ++ ".gd"
  plain : ∀ step ∈ ["addons", Text.lowercase brand, name], FilePath.Plain step
  reached : FilePath.advance output
    ((renderFilePath ["addons", Text.lowercase brand, name]).splitOn "/") = some place

theorem isScriptPlace_of_continues {brand middle : String}
    (identifier : Text.isIdentifier brand = true)
    (continues : ∀ char ∈ middle.toList, Text.continuesIdentifier char = true)
    (output : FilePath) :
    IsScriptPlace brand output
      (output ++ ["addons", Text.lowercase brand,
        SdkNames.scriptFile (brand ++ middle)])
      (SdkNames.scriptFile (brand ++ middle)) := by
  have named := Text.continuesIdentifier_of_mem identifier
  have directory : FilePath.Plain (Text.lowercase brand) := by
    refine FilePath.plain_of_marks ?_ fun mark => Text.not_mem_lowercase identifier
    rw [Text.lowercase, String.toList_ofList]
    refine Text.lowerAfter_ne_nil fun empty => ?_
    simp [Text.isIdentifier, Text.isIdentifierText, empty] at identifier
  have script : FilePath.Plain (SdkNames.scriptFile (brand ++ middle)) := by
    apply FilePath.plain_scriptFile
    intro char member
    rw [String.toList_append, List.mem_append] at member
    exact member.elim (named char) (continues char)
  have plain : ∀ step ∈ ["addons", Text.lowercase brand,
      SdkNames.scriptFile (brand ++ middle)], FilePath.Plain step := by
    have addons : FilePath.Plain "addons" := ⟨by decide, by decide, by decide⟩
    simp [addons, directory, script]
  exact ⟨rfl, ⟨middle, rfl⟩, plain, FilePath.advance_splitOn output (by simp) plain⟩

/-- The file of a script is no configuration and no input. -/
theorem IsScriptPlace.not_input {brand : String} {output place : FilePath}
    {name : String} (script : IsScriptPlace brand output place name) :
    CommandLine.Format.ofFileName? name = none := by
  obtain ⟨middle, rfl⟩ := script.branded
  have reversed : (brand ++ middle ++ ".gd").toList.reverse =
      'd' :: 'g' :: '.' :: (brand ++ middle).toList.reverse := by simp
  have parts (rest : List Char) :
      ('d' :: 'g' :: '.' :: rest).span (· != '.') = (['d', 'g'], '.' :: rest) := rfl
  rw [CommandLine.Format.ofFileName?, reversed, parts]
  cases (brand ++ middle).toList.reverse <;> rfl

namespace Sdk

variable {sdk : Sdk} {output : FilePath} {files : List ScriptFile}

/-! ## What writing leaves alone -/

/-- However writing ends, a file stays as it was if no script has its place. -/
theorem get?_writeFiles_of_elsewhere (tree : FileTree) {place : FilePath}
    (elsewhere : ∀ file ∈ files, place ≠ output ++ sdk.names.addonPath ++ [file.name]) :
    (sdk.writeFiles output tree files).2.get? place = tree.get? place := by
  induction files generalizing tree with
  | nil => rfl
  | cons file rest ih =>
      rw [List.forall_mem_cons] at elsewhere
      cases wrote : tree.write (output ++ sdk.names.addonPath) file.name file.text with
      | error cause => simp [writeFiles, wrote]
      | ok middle =>
          rw [writeFiles_cons_of_write rest wrote, ih middle elsewhere.2,
            FileTree.get?_write wrote place, if_neg elsewhere.1]

variable {apis : List ApiDescription}

/-- The names of all scripts go on after the brand as an identifier does. -/
theorem exists_middle_of_mem (planned : sdk.plan apis = .ok files) {file : ScriptFile}
    (member : file ∈ files) :
    ∃ middle, file.name = SdkNames.scriptFile (sdk.names.brand ++ middle) ∧
      ∀ char ∈ middle.toList, Text.continuesIdentifier char = true := by
  have suffixes : ["Settings", "Errors", "Models", "API"].all
      (fun suffix => suffix.toList.all Text.continuesIdentifier) = true := by decide
  have suffix (text : String) (among : text ∈ ["Settings", "Errors", "Models", "API"]) :
      ∀ char ∈ text.toList, Text.continuesIdentifier char = true :=
    List.all_eq_true.mp (List.all_eq_true.mp suffixes text among)
  obtain ⟨accepted, mapped, rfl⟩ := plan_eq_ok_iff.mp planned
  have ofApi (api : Sanitized) (among : api ∈ accepted) {text : String}
      (known : text ∈ ["Settings", "Errors", "Models", "API"]) :
      ∀ char ∈ (api.api.name ++ text).toList, Text.continuesIdentifier char = true := by
    obtain ⟨_, _, accepts⟩ := exists_origin_of_mapM_ok mapped among
    have named :=
      Text.continuesIdentifier_of_mem (acceptable_of_accept accepts).identifier
    intro char inside
    rw [String.toList_append, List.mem_append] at inside
    exact inside.elim (named char) (suffix text known char)
  rcases List.mem_append.mp member with shared | own
  · rw [List.mem_pair] at shared
    rcases shared with rfl | rfl
    · exact ⟨"Settings", rfl, suffix _ (by decide)⟩
    · exact ⟨"Errors", rfl, suffix _ (by decide)⟩
  · obtain ⟨api, among, own⟩ := List.mem_flatMap.mp own
    rw [List.mem_pair] at own
    rcases own with rfl | rfl
    · refine ⟨api.api.name ++ "Models", ?_, ofApi api among (by decide)⟩
      simp [modelsFile, SdkNames.modelsClass, String.append_assoc]
    · refine ⟨api.api.name ++ "API", ?_, ofApi api among (by decide)⟩
      simp [clientFile, SdkNames.clientClass, String.append_assoc]

theorem isScriptPlace_of_changed {config : Config} {now : Timestamp}
    (made : Sdk.new config now = .ok sdk) (output : FilePath) (tree : FileTree)
    (apis : List ApiDescription) {place : FilePath}
    (changed : (sdk.write output tree apis).2.get? place ≠ tree.get? place) :
    ∃ name, IsScriptPlace config.brand output place name := by
  have brand : sdk.names.brand = config.brand := by
    obtain ⟨_, sanitizer, sanitizes, rfl⟩ := new_eq_ok_iff.mp made
    exact Sanitizer.brand_of_new sanitizes
  have identifier := isIdentifier_brand_of_new made
  cases planned : sdk.plan apis with
  | error rejection => simp [write, planned] at changed
  | ok files =>
      rw [write_of_plan planned] at changed
      by_contra foreign
      apply changed
      apply get?_writeFiles_of_elsewhere
      rintro file member rfl
      obtain ⟨middle, named, continues⟩ := exists_middle_of_mem planned member
      rw [brand] at identifier named
      have script := isScriptPlace_of_continues identifier continues output
      exact foreign ⟨_, by simpa [SdkNames.addonPath, brand, named] using script⟩

/-- Whether an SDK is written in whole or in part, every file that is created or changed
is a script of its brand, directly in the directory of its addon. The configuration and
whatever can be an input stay as they were. -/
theorem confined_of_new {config : Config} {now : Timestamp}
    (made : Sdk.new config now = .ok sdk) (output : FilePath) (tree : FileTree)
    (apis : List ApiDescription) :
    (∀ place, (sdk.write output tree apis).2.get? place ≠ tree.get? place →
      ∃ name, IsScriptPlace config.brand output place name) ∧
    (sdk.write output tree apis).2.get? (output ++ [".gdgen.toml"]) =
      tree.get? (output ++ [".gdgen.toml"]) ∧
    ∀ directory name, (CommandLine.Format.ofFileName? name).isSome = true →
      (sdk.write output tree apis).2.get? (directory ++ [name]) =
        tree.get? (directory ++ [name]) := by
  refine ⟨fun place => isScriptPlace_of_changed made output tree apis, ?_,
    fun directory name input => ?_⟩
  · by_contra changed
    obtain ⟨name, script⟩ := isScriptPlace_of_changed made output tree apis changed
    simpa using script.direct
  · by_contra changed
    obtain ⟨script, place⟩ := isScriptPlace_of_changed made output tree apis changed
    have same : name = script := by
      have last := congrArg List.getLast? place.direct
      simpa using last
    rw [same, place.not_input] at input
    cases input

/-- A tree with a configuration, and with a directory where a client script should
go. -/
def occupied : FileTree :=
  ⟨[(["sdk", ".gdgen.toml"], ""),
    (["sdk", "addons", "playfab", "PlayFabClientAPI.gd", "notes.json"], "keep")]⟩

theorem confined_of_new_occupied :
    Sdk.new .standard standard.now = .ok standard ∧
      (standard.write ["sdk"] occupied similar).1 =
        .error (.unwritten .file ["addons", "playfab", "PlayFabClientAPI.gd"]) ∧
      (∀ place, (standard.write ["sdk"] occupied similar).2.get? place ≠
        occupied.get? place →
        ∃ name, IsScriptPlace Config.standard.brand ["sdk"] place name) ∧
      (standard.write ["sdk"] occupied similar).2.get? ["sdk", ".gdgen.toml"] =
        occupied.get? ["sdk", ".gdgen.toml"] ∧
      ∀ directory name, (CommandLine.Format.ofFileName? name).isSome = true →
        (standard.write ["sdk"] occupied similar).2.get? (directory ++ [name]) =
          occupied.get? (directory ++ [name]) := by
  refine ⟨new_standard, by decide, ?_⟩
  exact confined_of_new new_standard ["sdk"] occupied similar

end Sdk

end GodotSdk
