import GodotSdk.Proofs.Files.Contents
import GodotSdk.Proofs.Sdk.Writing
import Mathlib.Data.List.Perm.Basic

/-!
# Reproducibility

The scripts of an SDK are written into one directory under different names, so that each
of them can be written whether or not the others were written before. What lies there in
the end does not depend on the order of the APIs, except that the catalog of errors is
that of the first one, nor on what had been there, and an SDK that is written over
itself stays as it is.
-/

namespace GodotSdk

theorem lastText?_of_perm {directory path : FilePath} {files others : List ScriptFile}
    (perm : files.Perm others) (nodup : (files.map (·.name)).Nodup) :
    lastText? directory path files = lastText? directory path others := by
  have alsoNodup : (others.map (·.name)).Nodup := (perm.map _).nodup_iff.mp nodup
  by_cases taken : ∃ file ∈ files, path = directory ++ [file.name]
  · obtain ⟨file, member, rfl⟩ := taken
    rw [lastText?_of_mem directory nodup member,
      lastText?_of_mem directory alsoNodup (perm.mem_iff.mp member)]
  · have elsewhere : ∀ file ∈ files, path ≠ directory ++ [file.name] :=
      fun file member same => taken ⟨file, member, same⟩
    rw [lastText?_eq_none elsewhere, lastText?_eq_none fun file member =>
      elsewhere file (perm.mem_iff.mpr member)]

namespace Sdk

variable {sdk : Sdk} {output : FilePath} {tree after : FileTree}
  {files : List ScriptFile}

/-! ## Runs of writes -/

theorem admits_writeFiles_iff {name : String}
    (done : sdk.writeFiles output tree files = (.ok (), after)) :
    after.Admits (output ++ sdk.names.addonPath) name ↔
      tree.Admits (output ++ sdk.names.addonPath) name := by
  induction files generalizing tree with
  | nil =>
      simp only [writeFiles, Prod.mk.injEq, true_and] at done
      rw [done]
  | cons file rest ih =>
      cases wrote : tree.write (output ++ sdk.names.addonPath) file.name file.text with
      | error cause => simp [writeFiles, wrote] at done
      | ok middle =>
          rw [writeFiles_cons_of_write rest wrote] at done
          rw [ih done, FileTree.admits_write_iff wrote]

/-- Scripts can be written one after the other exactly if each of them could be written
by itself. -/
theorem exists_writeFiles_iff :
    (∃ after, sdk.writeFiles output tree files = (.ok (), after)) ↔
      ∀ file ∈ files, tree.Admits (output ++ sdk.names.addonPath) file.name := by
  induction files generalizing tree with
  | nil => simp [writeFiles]
  | cons file rest ih =>
      rw [List.forall_mem_cons]
      cases wrote : tree.write (output ++ sdk.names.addonPath) file.name file.text with
      | error cause =>
          have refused : ¬ tree.Admits (output ++ sdk.names.addonPath) file.name := by
            intro admits
            have done : tree.write (output ++ sdk.names.addonPath) file.name
                file.text = .ok _ :=
              FileTree.write_eq_ok_iff.mpr ⟨admits, rfl⟩
            rw [wrote] at done
            cases done
          simp [writeFiles, wrote, refused]
      | ok middle =>
          have admits := FileTree.admits_of_write wrote
          simp only [writeFiles_cons_of_write rest wrote, ih,
            FileTree.admits_write_iff wrote, admits, true_and]

/-- Scripts that lie in their places already are written without a change. -/
theorem writeFiles_of_stored
    (admits : ∀ file ∈ files, tree.Admits (output ++ sdk.names.addonPath) file.name)
    (stored : ∀ file ∈ files, sdk.Stored output tree file) :
    sdk.writeFiles output tree files = (.ok (), tree) := by
  induction files with
  | nil => rfl
  | cons file rest ih =>
      rw [List.forall_mem_cons] at admits stored
      have unchanged := FileTree.write_of_get? admits.1 stored.1
      rw [writeFiles_cons_of_write rest unchanged]
      exact ih admits.2 stored.2

/-! ## Plans in another order -/

variable {apis others : List ApiDescription}

theorem plan_eq_ok_iff_accepts :
    sdk.plan apis = .ok files ↔
      (∀ api ∈ apis, sdk.accept api = .ok (sdk.names.sanitizer.sanitize api)) ∧
        files = sdk.files apis.head? (apis.map sdk.names.sanitizer.sanitize) := by
  have mapped (accepted : List Sanitized) : apis.mapM sdk.accept = .ok accepted ↔
      (∀ api ∈ apis, sdk.accept api = .ok (sdk.names.sanitizer.sanitize api)) ∧
        accepted = apis.map sdk.names.sanitizer.sanitize :=
    mapM_eq_ok_iff_of_only fun _ _ => eq_sanitize_of_accept
  rw [plan_eq_ok_iff]
  constructor
  · rintro ⟨accepted, all, rfl⟩
    obtain ⟨each, rfl⟩ := (mapped accepted).mp all
    exact ⟨each, rfl⟩
  · rintro ⟨accepts, rfl⟩
    exact ⟨_, (mapped _).mpr ⟨accepts, rfl⟩, rfl⟩

/-- The same APIs in another order have the same scripts in another order, if they begin
with the same one. -/
theorem exists_plan_of_perm (perm : others.Perm apis)
    (first : others.head? = apis.head?) (planned : sdk.plan apis = .ok files) :
    ∃ reordered, sdk.plan others = .ok reordered ∧ reordered.Perm files := by
  obtain ⟨accepts, rfl⟩ := plan_eq_ok_iff_accepts.mp planned
  refine ⟨_, plan_eq_ok_iff_accepts.mpr ⟨fun api member =>
    accepts api (perm.mem_iff.mp member), rfl⟩, ?_⟩
  rw [Sdk.files, Sdk.files, first]
  exact ((perm.map _).flatMap_right _).append_left _

/-! ## Writing again -/

/-- What writing an SDK leaves in a tree depends on its APIs and on the first of them,
but neither on the order of the others, nor on how often it is written, nor on what was
in the place of a script. -/
structure Reproducible (sdk : Sdk) (output : FilePath) (tree : FileTree)
    (apis : List ApiDescription) : Prop where
  reordered : ∀ others : List ApiDescription, others.Perm apis →
    others.head? = apis.head? → (sdk.write output tree others).1 = .ok () ∧
      (sdk.write output tree others).2.Alike (sdk.write output tree apis).2
  repeated : sdk.write output (sdk.write output tree apis).2 apis =
    (.ok (), (sdk.write output tree apis).2)
  settled : ∃ files, sdk.plan apis = .ok files ∧ ∀ earlier : FileTree,
    (sdk.write output earlier apis).1 = .ok () →
      ∀ file ∈ files, sdk.Stored output (sdk.write output earlier apis).2 file

theorem write_of_perm (planned : sdk.plan apis = .ok files)
    (nodup : (files.map (·.name)).Nodup)
    (done : sdk.writeFiles output tree files = (.ok (), after))
    (perm : others.Perm apis) (first : others.head? = apis.head?) :
    (sdk.write output tree others).1 = .ok () ∧
      (sdk.write output tree others).2.Alike after := by
  obtain ⟨reordered, alsoPlanned, permuted⟩ := exists_plan_of_perm perm first planned
  have admits := exists_writeFiles_iff.mp ⟨after, done⟩
  obtain ⟨also, alsoDone⟩ := exists_writeFiles_iff.mpr fun file member =>
      admits file (permuted.mem_iff.mp member)
  rw [write_of_plan alsoPlanned, alsoDone]
  refine ⟨rfl, FileTree.alike_of_get? fun path => ?_⟩
  have alsoNodup : (reordered.map (·.name)).Nodup :=
    (permuted.map _).nodup_iff.mpr nodup
  rw [get?_writeFiles alsoDone, get?_writeFiles done,
    lastText?_of_perm permuted alsoNodup]

/-- An SDK that was written, of APIs with different names, can be reproduced. -/
theorem reproducible_of_write (distinct : (apis.map (·.name)).Nodup)
    (written : (sdk.write output tree apis).1 = .ok ()) :
    sdk.Reproducible output tree apis := by
  obtain ⟨files, planned, done⟩ := exists_plan_of_write written
  have nodup : (files.map (·.name)).Nodup := (nodup_names_iff planned).mpr distinct
  refine ⟨fun others perm first => write_of_perm planned nodup done perm first, ?_,
    files, planned, ?_⟩
  · have admits := exists_writeFiles_iff.mp ⟨_, done⟩
    rw [write_of_plan planned]
    apply writeFiles_of_stored
    · exact fun file member => (admits_writeFiles_iff done).mpr (admits file member)
    · exact fun file member => stored_of_mem done nodup member
  · intro earlier alsoWritten file member
    obtain ⟨also, alsoPlanned, alsoDone⟩ := exists_plan_of_write alsoWritten
    obtain rfl : files = also := by simpa [planned] using alsoPlanned
    exact stored_of_mem alsoDone nodup member

/-- APIs of which the first one has a catalog of errors. -/
def catalogued : List ApiDescription := [
  ⟨"Client", [], [plainCall "Login" "/Client/Login"], ["NotFound"],
    .ofList [("NotFound", ⟨"NotFound", 404⟩)]⟩, callsOnly "ClientModels" [],
  callsOnly "Server" [plainCall "Ban" "/Server/Ban"]]

/-- A tree with a configuration, and with an outdated script and a script of another
SDK. -/
def outdated : FileTree :=
  ⟨[(["sdk", "addons", "playfab", "PlayFabServerAPI.gd"], "# outdated"),
    (["sdk", ".gdgen.toml"], ""),
    (["sdk", "addons", "playfab", "OtherServerAPI.gd"], "extends Node")]⟩

theorem reproducible_of_write_outdated :
    (catalogued.map (·.name)).Nodup ∧
      (standard.write ["sdk"] outdated catalogued).1 = .ok () ∧
      standard.Reproducible ["sdk"] outdated catalogued := by
  have distinct : (catalogued.map (·.name)).Nodup := by decide
  have written : (standard.write ["sdk"] outdated catalogued).1 = .ok () := by decide
  exact ⟨distinct, written, reproducible_of_write distinct written⟩

end Sdk

end GodotSdk
