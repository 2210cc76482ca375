import GodotSdk.Proofs.Naming.ScriptFiles
import GodotSdk.Proofs.Sdk.Plan

/-!
# Writing scripts in order

What a tree holds after scripts were written into one directory: the last text written
at a path, and what was there before where nothing was written. A run of writes that
fails has written some scripts and could not write the next one.

An SDK that was written holds the scripts of all of its APIs exactly if the APIs have
different names. Nothing compares their names before, so of two APIs with the same name
the second takes the place of the first.
-/

namespace GodotSdk

/-- The text of the last of several scripts in a directory whose path is the given
one. -/
def lastText? (directory path : FilePath) : List ScriptFile → Option String
  | [] => none
  | file :: rest =>
      (lastText? directory path rest).or (if path = directory ++ [file.name] then
        some file.text else none)

theorem lastText?_eq_none {directory path : FilePath} {files : List ScriptFile}
    (elsewhere : ∀ file ∈ files, path ≠ directory ++ [file.name]) :
    lastText? directory path files = none := by
  induction files with
  | nil => rfl
  | cons file rest ih =>
      have later := ih fun other member => elsewhere other (by simp [member])
      simp [lastText?, later, elsewhere file (by simp)]

/-- A script is the last at its path if no other script has its name. -/
theorem lastText?_of_mem (directory : FilePath) {files : List ScriptFile}
    (nodup : (files.map (·.name)).Nodup) {file : ScriptFile} (member : file ∈ files) :
    lastText? directory (directory ++ [file.name]) files = some file.text := by
  induction files with
  | nil => cases member
  | cons first rest ih =>
      obtain ⟨fresh, nodup⟩ := List.nodup_cons.mp nodup
      rcases List.mem_cons.mp member with rfl | member
      · have later : lastText? directory (directory ++ [file.name]) rest = none := by
          apply lastText?_eq_none
          intro other among same
          have named : file.name = other.name := by simpa using same
          exact fresh (List.mem_map.mpr ⟨other, among, named.symm⟩)
        simp [lastText?, later]
      · simp [lastText?, ih nodup member]

namespace Sdk

variable {sdk : Sdk} {output : FilePath} {tree after : FileTree}
  {files : List ScriptFile}

/-- A run of writes broke off: some scripts were written, and the next one could not
be. -/
def BrokeOff (sdk : Sdk) (output : FilePath) (tree : FileTree) (files : List ScriptFile)
    (failure : SdkFailure) (after : FileTree) : Prop :=
  ∃ written file rest cause, files = written ++ file :: rest ∧
    sdk.writeFiles output tree written = (.ok (), after) ∧
    after.write (output ++ sdk.names.addonPath) file.name file.text = .error cause ∧
    failure = .ofWrite sdk.names.addonPath file.name cause

theorem writeFiles_cons_of_write {middle : FileTree} {file : ScriptFile}
    (rest : List ScriptFile)
    (wrote : tree.write (output ++ sdk.names.addonPath) file.name file.text =
      .ok middle) :
    sdk.writeFiles output tree (file :: rest) = sdk.writeFiles output middle rest := by
  simp [writeFiles, wrote]

/-- Scripts that were all written lie at their paths, where later ones count, and
nothing else has changed. -/
theorem get?_writeFiles (done : sdk.writeFiles output tree files = (.ok (), after))
    (path : FilePath) :
    after.get? path =
      (lastText? (output ++ sdk.names.addonPath) path files).or (tree.get? path) := by
  induction files generalizing tree with
  | nil =>
      simp only [writeFiles, Prod.mk.injEq, true_and] at done
      simp [lastText?, done]
  | cons file rest ih =>
      cases wrote : tree.write (output ++ sdk.names.addonPath) file.name file.text with
      | error cause => simp [writeFiles, wrote] at done
      | ok middle =>
          rw [writeFiles_cons_of_write rest wrote] at done
          rw [ih done, FileTree.get?_write wrote path, lastText?, Option.or_assoc]
          congr 1
          split <;> rfl

/-- Writing fails only because one of the scripts cannot be written. -/
theorem brokeOff_of_writeFiles {failure : SdkFailure}
    (failed : sdk.writeFiles output tree files = (.error failure, after)) :
    sdk.BrokeOff output tree files failure after := by
  induction files generalizing tree with
  | nil => simp [writeFiles] at failed
  | cons file rest ih =>
      cases wrote : tree.write (output ++ sdk.names.addonPath) file.name file.text with
      | error cause =>
          simp only [writeFiles, wrote, Prod.mk.injEq, Except.error.injEq] at failed
          obtain ⟨rfl, rfl⟩ := failed
          exact ⟨[], file, rest, cause, rfl, rfl, wrote, rfl⟩
      | ok middle =>
          rw [writeFiles_cons_of_write rest wrote] at failed
          obtain ⟨written, next, others, cause, rfl, done, refused, same⟩ := ih failed
          refine ⟨file :: written, next, others, cause, rfl, ?_, refused, same⟩
          rw [writeFiles_cons_of_write written wrote, done]

/-! ## Keeping every script -/

/-- A script lies in its place below an output directory. -/
def Stored (sdk : Sdk) (output : FilePath) (tree : FileTree)
    (file : ScriptFile) : Prop :=
  tree.get? (output ++ sdk.names.addonPath ++ [file.name]) = some file.text

/-- The scripts of all APIs lie in their places, and nothing was written where a script
had been written before. -/
structure Keeps (sdk : Sdk) (output : FilePath) (apis : List ApiDescription)
    (after : FileTree) : Prop where
  stored : ∀ api ∈ apis, ∃ accepted, sdk.accept api = .ok accepted ∧
    sdk.Stored output after (sdk.modelsFile accepted) ∧
      sdk.Stored output after (sdk.clientFile accepted)
  once : ∀ files, sdk.plan apis = .ok files →
    files.Pairwise fun earlier later => earlier.name ≠ later.name

theorem stored_of_mem (done : sdk.writeFiles output tree files = (.ok (), after))
    (nodup : (files.map (·.name)).Nodup) {file : ScriptFile} (member : file ∈ files) :
    sdk.Stored output after file := by
  rw [Stored, get?_writeFiles done, lastText?_of_mem _ nodup member, Option.some_or]

/-- The names of the files depend on the names of the APIs only. -/
theorem names_files (catalog : Option ApiDescription) (accepted : List Sanitized) :
    (sdk.files catalog accepted).map (·.name) =
      sdk.names.sharedScripts ++
        (accepted.map (·.api.name)).flatMap sdk.names.apiScripts := by
  simp [files, settingsFile, errorsFile, modelsFile, clientFile, SdkNames.sharedScripts,
    SdkNames.apiScripts, List.map_flatMap, List.flatMap_map]

variable {apis : List ApiDescription}

theorem nodup_names_iff (planned : sdk.plan apis = .ok files) :
    (files.map (·.name)).Nodup ↔ (apis.map (·.name)).Nodup := by
  obtain ⟨accepted, mapped, rfl⟩ := plan_eq_ok_iff.mp planned
  have named : accepted.map (·.api.name) = apis.map (·.name) :=
    map_eq_of_mapM_ok mapped fun _ _ => name_of_accept
  rw [names_files, SdkNames.nodup_scripts_iff, named]

theorem write_of_plan (planned : sdk.plan apis = .ok files) :
    sdk.write output tree apis = sdk.writeFiles output tree files := by
  simp only [write, planned]

theorem exists_plan_of_write (written : (sdk.write output tree apis).1 = .ok ()) :
    ∃ files, sdk.plan apis = .ok files ∧
      sdk.writeFiles output tree files = (.ok (), (sdk.write output tree apis).2) := by
  cases planned : sdk.plan apis with
  | error rejection => simp [write, planned] at written
  | ok files =>
      rw [write_of_plan planned] at written ⊢
      exact ⟨files, rfl, Prod.ext written rfl⟩

theorem nodup_of_keeps (planned : sdk.plan apis = .ok files)
    (keeps : sdk.Keeps output apis after) :
    (apis.map (·.name)).Nodup := by
  rw [← nodup_names_iff planned]
  exact List.pairwise_map.mpr (keeps.once files planned)

theorem keeps_of_nodup (planned : sdk.plan apis = .ok files)
    (done : sdk.writeFiles output tree files = (.ok (), after))
    (nodup : (apis.map (·.name)).Nodup) :
    sdk.Keeps output apis after where
  stored := by
    intro api member
    have distinct := (nodup_names_iff planned).mpr nodup
    obtain ⟨all, mapped, rfl⟩ := plan_eq_ok_iff.mp planned
    obtain ⟨accepted, among, accepts⟩ := exists_of_mapM_ok mapped member
    refine ⟨accepted, accepts, stored_of_mem done distinct ?_,
      stored_of_mem done distinct ?_⟩
    · exact List.mem_append_right _ (List.mem_flatMap.mpr ⟨accepted, among, by simp⟩)
    · exact List.mem_append_right _ (List.mem_flatMap.mpr ⟨accepted, among, by simp⟩)
  once := by
    intro others also
    obtain rfl : files = others := by simpa [planned] using also
    exact List.pairwise_map.mp ((nodup_names_iff planned).mpr nodup)

/-- An SDK that was written keeps every script exactly if no two of its APIs have the
same name. -/
theorem keeps_iff_nodup (written : (sdk.write output tree apis).1 = .ok ()) :
    sdk.Keeps output apis (sdk.write output tree apis).2 ↔
      (apis.map (·.name)).Nodup := by
  obtain ⟨files, planned, done⟩ := exists_plan_of_write written
  exact ⟨nodup_of_keeps planned, keeps_of_nodup planned done⟩

/-- An API without datatypes. -/
def callsOnly (name : String) (calls : List ApiCall) : ApiDescription :=
  ⟨name, [], calls, [], .empty⟩

/-- A call for which nothing but its name and its URL is said. -/
def plainCall (name url : String) : ApiCall :=
  ⟨name, url, none, none, .anonymous, none, none⟩

/-- Two APIs of which the name of one goes on where that of a script of the other
ends. -/
def similar : List ApiDescription :=
  [callsOnly "Client" [plainCall "Login" "/Client/Login"], callsOnly "ClientModels" []]

theorem keeps_iff_nodup_similar :
    (standard.write ["sdk"] .empty similar).1 = .ok () ∧
      standard.Keeps ["sdk"] similar (standard.write ["sdk"] .empty similar).2 := by
  have written : (standard.write ["sdk"] .empty similar).1 = .ok () := by decide
  exact ⟨written, (keeps_iff_nodup written).mpr (by decide)⟩

/-- Two APIs with the same name. -/
def namesakes : List ApiDescription :=
  [callsOnly "Client" [plainCall "Login" "/Client/Login"], callsOnly "Client" []]

/-- Both are accepted and written, but the calls of the first one are nowhere in the
SDK. -/
theorem namesakes_not_kept :
    (standard.write ["sdk"] .empty namesakes).1 = .ok () ∧
      ¬ standard.Stored ["sdk"] (standard.write ["sdk"] .empty namesakes).2
        (standard.clientFile (standard.names.sanitizer.sanitize namesakes[0])) ∧
      ¬ standard.Keeps ["sdk"] namesakes (standard.write ["sdk"] .empty namesakes).2 :=
  by
  have written : (standard.write ["sdk"] .empty namesakes).1 = .ok () := by
    decide +kernel
  obtain ⟨files, planned, _⟩ := exists_plan_of_write written
  refine ⟨written, by unfold Stored; decide +kernel, fun keeps => ?_⟩
  have nodup := nodup_of_keeps planned keeps
  exact absurd nodup (by decide)

end Sdk

end GodotSdk
