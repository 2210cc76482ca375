import GodotSdk.Naming.SdkNames
import Mathlib.Data.List.Nodup

/-!
# File names of scripts

The scripts of an SDK have different file names exactly if its APIs have different
names. All of them begin with the brand, and the four kinds of scripts are told apart by
the end of what follows it.
-/

namespace GodotSdk.SdkNames

/-- The file names of the scripts that all APIs share. -/
def sharedScripts (names : SdkNames) : List String :=
  [scriptFile names.settingsClass, scriptFile names.errorsClass]

/-- The file names of the scripts of an API. -/
def apiScripts (names : SdkNames) (api : String) : List String :=
  [scriptFile (names.modelsClass api), scriptFile (names.clientClass api)]

/-- The last characters of a file name, as many as tell the kinds of scripts apart. -/
def ending (file : String) : List Char :=
  file.toList.reverse.take 5

variable (names : SdkNames) {api first second : String}

@[simp] theorem ending_settingsClass :
    ending (scriptFile names.settingsClass) = ['d', 'g', '.', 's', 'g'] := by
  simp [ending, scriptFile, settingsClass]

@[simp] theorem ending_errorsClass :
    ending (scriptFile names.errorsClass) = ['d', 'g', '.', 's', 'r'] := by
  simp [ending, scriptFile, errorsClass]

@[simp] theorem ending_modelsClass :
    ending (scriptFile (names.modelsClass api)) = ['d', 'g', '.', 's', 'l'] := by
  simp [ending, scriptFile, modelsClass]

@[simp] theorem ending_clientClass :
    ending (scriptFile (names.clientClass api)) = ['d', 'g', '.', 'I', 'P'] := by
  simp [ending, scriptFile, clientClass]

theorem ne_of_ending {left right : String} (different : ending left ≠ ending right) :
    left ≠ right := by
  rintro rfl
  exact different rfl

theorem scriptFile_modelsClass_inj :
    scriptFile (names.modelsClass first) = scriptFile (names.modelsClass second) ↔
      first = second := by
  simp only [scriptFile, modelsClass, String.append_left_inj, String.append_right_inj]

theorem scriptFile_clientClass_inj :
    scriptFile (names.clientClass first) = scriptFile (names.clientClass second) ↔
      first = second := by
  simp only [scriptFile, clientClass, String.append_left_inj, String.append_right_inj]

theorem nodup_sharedScripts : names.sharedScripts.Nodup := by
  have different : scriptFile names.settingsClass ≠ scriptFile names.errorsClass :=
    ne_of_ending (by simp)
  simp [sharedScripts, different]

theorem nodup_apiScripts : (names.apiScripts api).Nodup := by
  have different : scriptFile (names.modelsClass api) ≠
      scriptFile (names.clientClass api) :=
    ne_of_ending (by simp)
  simp [apiScripts, different]

theorem disjoint_sharedScripts :
    names.sharedScripts.Disjoint (names.apiScripts api) := by
  intro file shared own
  simp only [sharedScripts, apiScripts, List.mem_cons, List.not_mem_nil, or_false]
    at shared own
  rcases shared with rfl | rfl <;> rcases own with same | same <;>
    exact ne_of_ending (by simp) same

theorem disjoint_apiScripts_iff :
    (names.apiScripts first).Disjoint (names.apiScripts second) ↔ first ≠ second := by
  constructor
  · rintro apart rfl
    exact apart (List.mem_cons_self ..) (List.mem_cons_self ..)
  · intro different file left right
    simp only [apiScripts, List.mem_cons, List.not_mem_nil, or_false] at left right
    rcases left with rfl | rfl <;> rcases right with same | same
    · exact different (names.scriptFile_modelsClass_inj.mp same)
    · exact ne_of_ending (by simp) same
    · exact ne_of_ending (by simp) same
    · exact different (names.scriptFile_clientClass_inj.mp same)

/-- No two scripts have the same file name exactly if no two APIs have the same name. -/
theorem nodup_scripts_iff (apis : List String) :
    (names.sharedScripts ++ apis.flatMap names.apiScripts).Nodup ↔ apis.Nodup := by
  have apart : names.sharedScripts.Disjoint (apis.flatMap names.apiScripts) := by
    intro file shared own
    obtain ⟨api, _, own⟩ := List.mem_flatMap.mp own
    exact names.disjoint_sharedScripts shared own
  rw [List.nodup_append', List.nodup_flatMap]
  constructor
  · rintro ⟨_, ⟨_, pairs⟩, _⟩
    exact pairs.imp names.disjoint_apiScripts_iff.mp
  · intro nodup
    refine ⟨names.nodup_sharedScripts, ⟨fun _ _ => names.nodup_apiScripts, ?_⟩, apart⟩
    exact nodup.imp names.disjoint_apiScripts_iff.mpr

end GodotSdk.SdkNames
