import GodotSdk.CommandLine.Run
import GodotSdk.Proofs.Files.Steps
import GodotSdk.Proofs.Schema.RoundTrip
import GodotSdk.Proofs.Sdk.Writing

/-!
# Failures

A run that fails leaves the file tree as it was, unless all that it needs was read and
accepted and then a directory could not be created or a file not be written. So what is
wrong with a command line, a configuration, an input or an API is always found before
the first write.
-/

namespace GodotSdk

namespace Sdk

variable {sdk : Sdk} {output : FilePath} {tree after : FileTree}
  {apis : List ApiDescription}

theorem write_of_rejected {rejection : Rejection}
    (rejected : sdk.plan apis = .error rejection) :
    sdk.write output tree apis = (.error (.rejected rejection), tree) := by
  simp [write, rejected]

/-- If an API is not accepted, the first such API is the reason why nothing is
written. -/
theorem exists_first_rejected
    (unfit : ∃ api ∈ apis, ∀ accepted, sdk.accept api ≠ .ok accepted) :
    ∃ before api rest rejection, apis = before ++ api :: rest ∧
      (∀ other ∈ before, ∃ accepted, sdk.accept other = .ok accepted) ∧
      sdk.accept api = .error rejection ∧
      sdk.write output tree apis = (.error (.rejected rejection), tree) := by
  cases planned : sdk.plan apis with
  | error rejection =>
      obtain ⟨before, api, rest, split, passed, rejected⟩ :=
        plan_eq_error_iff.mp planned
      exact ⟨before, api, rest, rejection, split, passed, rejected,
        write_of_rejected planned⟩
  | ok files =>
      obtain ⟨api, member, never⟩ := unfit
      obtain ⟨all, mapped, _⟩ := plan_eq_ok_iff.mp planned
      obtain ⟨accepted, _, accepts⟩ := exists_of_mapM_ok mapped member
      exact absurd accepts (never accepted)

/-- An SDK is not written because an API is rejected, or because one of its files cannot
be written. -/
theorem write_failed {failure : SdkFailure}
    (failed : sdk.write output tree apis = (.error failure, after)) :
    (∃ rejection, failure = .rejected rejection ∧ after = tree) ∨
      ∃ files, sdk.plan apis = .ok files ∧
        sdk.BrokeOff output tree files failure after := by
  cases planned : sdk.plan apis with
  | error rejection =>
      rw [write_of_rejected planned] at failed
      cases failed
      exact .inl ⟨rejection, rfl, rfl⟩
  | ok files =>
      rw [write_of_plan planned] at failed
      exact .inr ⟨files, rfl, brokeOff_of_writeFiles failed⟩

end Sdk

namespace CommandLine

/-- Whether a directory could not be created, or a file not be written. -/
def Failure.isFailedWrite : Failure → Bool
  | .sdk (.unwritten ..) => true
  | _ => false

theorem Failure.isFailedWrite_ofWrite (directory : FilePath) (name : String)
    (cause : WriteError) :
    (Failure.sdk (.ofWrite directory name cause)).isFailedWrite = true := by
  cases cause <;> rfl

theorem readInput_failed {read : String → Except LookupError String} {path : String}
    {failure : Failure} (failed : readInput read path = .error failure) :
    failure.isFailedWrite = false := by
  unfold readInput at failed
  split at failed
  · cases failed
    rfl
  · split at failed
    · cases failed
      rfl
    · split at failed
      · cases failed
      · cases failed
        rfl

namespace Job

variable {job : Job} {now : Timestamp} {tree after : FileTree} {failure : Failure}
  {read : String → Except LookupError String}

theorem config_failed (failed : job.config read = .error failure) :
    failure.isFailedWrite = false := by
  unfold config at failed
  split at failed
  · cases failed
  · cases failed
    rfl
  · split at failed
    · cases failed
    · cases failed
      rfl

/-- Nothing is written while a job is prepared. -/
theorem prepare_failed (failed : job.prepare now read = .error failure) :
    failure.isFailedWrite = false := by
  rcases bind_eq_error_iff.mp failed with failed | ⟨config, _, failed⟩
  · exact config_failed failed
  rcases bind_eq_error_iff.mp failed with failed | ⟨apis, _, failed⟩
  · obtain ⟨_, path, _, _, _, failed⟩ := mapM_eq_error_iff.mp failed
    exact readInput_failed failed
  rcases bind_eq_error_iff.mp failed with failed | ⟨sdk, _, failed⟩
  · cases made : Sdk.new config now with
    | error error =>
        rw [made] at failed
        cases failed
        rfl
    | ok sdk => simp [made, Except.mapError] at failed
  · cases failed

/-- All that a job needs was read and accepted, but writing its scripts into a tree
broke off. -/
def BrokeOff (job : Job) (now : Timestamp) (tree : FileTree) (failure : Failure)
    (after : FileTree) : Prop :=
  ∃ sdk apis output files unwritten, job.prepare now tree.read = .ok (sdk, apis) ∧
    FilePath.ofText? job.output = some output ∧ sdk.plan apis = .ok files ∧
    sdk.BrokeOff output tree files unwritten after ∧ failure = .sdk unwritten

theorem BrokeOff.isFailedWrite (brokeOff : job.BrokeOff now tree failure after) :
    failure.isFailedWrite = true := by
  obtain ⟨_, _, _, _, _, _, _, _, ⟨_, _, _, _, _, _, _, rfl⟩, rfl⟩ := brokeOff
  exact Failure.isFailedWrite_ofWrite _ _ _

theorem run_failed (failed : job.run now tree = (.error failure, after)) :
    (failure.isFailedWrite = false ∧ after = tree) ∨
      job.BrokeOff now tree failure after := by
  unfold run at failed
  split at failed
  · next own prepared =>
      cases failed
      exact .inl ⟨prepare_failed prepared, rfl⟩
  · next sdk apis prepared =>
      split at failed
      · next output place =>
          cases written : sdk.write output tree apis with
          | mk result changed =>
              cases result with
              | ok => simp [written, Except.mapError] at failed
              | error unwritten =>
                  simp only [written, Except.mapError, Prod.mk.injEq,
                    Except.error.injEq] at failed
                  obtain ⟨rfl, rfl⟩ := failed
                  rcases Sdk.write_failed written
                    with ⟨rejection, rfl, rfl⟩ | ⟨files, planned, brokeOff⟩
                  · exact .inl ⟨rfl, rfl⟩
                  · exact .inr ⟨sdk, apis, output, files, unwritten, prepared, place,
                      planned, brokeOff, rfl⟩
      · cases planned : sdk.plan apis with
        | ok files => simp [planned, Except.mapError, bind, Except.bind] at failed
        | error rejection =>
            simp only [planned, Except.mapError, bind, Except.bind, Prod.mk.injEq,
              Except.error.injEq] at failed
            obtain ⟨rfl, rfl⟩ := failed
            exact .inl ⟨rfl, rfl⟩

end Job

/-- A run that fails leaves the tree as it was, unless everything was read and accepted
and a script then could not be written. If one of several APIs is not accepted, the
first such API is the reason, and nothing is written. -/
theorem untouched_of_failure (arguments : List String) (now : Timestamp)
    (tree : FileTree) (sdk : Sdk) (output : FilePath) (apis : List ApiDescription) :
    (∀ failure after, run arguments now tree = (.error failure, after) →
      (failure.isFailedWrite = false ∧ after = tree) ∨
      (failure.isFailedWrite = true ∧
        ∃ job, Invocation.ofTexts arguments = .ok (.generate job) ∧
        job.BrokeOff now tree failure after)) ∧
    ((∃ api ∈ apis, ∀ accepted, sdk.accept api ≠ .ok accepted) →
      ∃ before api rest rejection, apis = before ++ api :: rest ∧
        (∀ other ∈ before, ∃ accepted, sdk.accept other = .ok accepted) ∧
        sdk.accept api = .error rejection ∧
        sdk.write output tree apis = (.error (.rejected rejection), tree)) := by
  refine ⟨fun failure after failed => ?_, Sdk.exists_first_rejected⟩
  unfold run at failed
  split at failed
  · cases failed
    exact .inl ⟨rfl, rfl⟩
  · next job asked =>
      rcases Job.run_failed failed with untouched | brokeOff
      · exact .inl untouched
      · exact .inr ⟨brokeOff.isFailedWrite, job, asked, brokeOff⟩
  · cases failed
  · cases failed

/-! ## A run that is rejected late -/

section Described

open Schema (encodeDescription)

/-- The name of a file with a description in JSON, which leads to the file from where it
lies. -/
structure IsInputName (name : String) : Prop where
  step : FilePath.Plain name
  short : name.utf8ByteSize ≤ FilePath.longestName
  relative : FilePath.isAbsolute name = false
  json : Format.ofFileName? name = some .json

/-- A description that is stored at the root of a tree is read by the name of its
file. -/
theorem readInput_of_stored {tree : FileTree} {name : String} {api : ApiDescription}
    (root : tree.isFile [] = false) (input : IsInputName name)
    (stored : tree.get? [name] = some (encodeDescription api).render)
    (named : ∀ type ∈ api.types, type.IsNamed)
    (plain : ∀ part ∈ api.deprecations, ∀ date ∈ part.deprecatedAfter,
      date.hasPlainYear) :
    readInput tree.read name = .ok api := by
  have file : fileName name = name := by
    rw [fileName, splitOn_slash, List.splitOn_eq_singleton input.step.undivided.1]
    simp
  have text := FileTree.read_of_plain root stored input.step input.short input.relative
  have parsed := ofJson_encodeDescription named plain
  simp only [readInput, text, file, input.json, Format.read?, parsed, Except.toOption]

/-- A tree with two descriptions, of which the second cannot be accepted, and with a
file that no run needs. -/
def described : FileTree :=
  ⟨[(["notes.txt"], "keep"),
    (["client.json"], (encodeDescription (Sdk.callsOnly "Client" [])).render),
    (["key.json"], (encodeDescription (Sdk.callsOnly "Entity.Key" [])).render)]⟩

theorem readInput_described {name api : String} (input : IsInputName name)
    (stored : described.get? [name] =
      some (encodeDescription (Sdk.callsOnly api [])).render) :
    readInput described.read name = .ok (Sdk.callsOnly api []) :=
  readInput_of_stored (by decide) input stored
    (by simp [Sdk.callsOnly, ApiDescription.types])
    (by simp [Sdk.callsOnly, ApiDescription.deprecations])

/-- The configuration of a run in that tree is missing, and both descriptions are
read. -/
theorem prepare_described :
    Job.prepare ⟨"sdk", ["client.json", "key.json"],
      {}⟩ Sdk.standard.now described.read =
      .ok (.standard, [Sdk.callsOnly "Client" [], Sdk.callsOnly "Entity.Key" []]) := by
  have config : described.read ("sdk" ++ "/.gdgen.toml") = .error .missing := by
    have relative : FilePath.isAbsolute ("sdk" ++ "/.gdgen.toml") = false := by
      decide +kernel
    have steps : ("sdk" ++ "/.gdgen.toml").splitOn "/" = ["sdk", ".gdgen.toml"] := by
      rw [splitOn_slash]
      decide
    have walked : described.walk [] ["sdk", ".gdgen.toml"] = .error .missing := by
      decide
    simp only [FileTree.read, steps, walked, relative]
    rfl
  have client : readInput described.read "client.json" =
      .ok (Sdk.callsOnly "Client" []) := readInput_described
    ⟨⟨by decide, by decide, by decide⟩, by decide, by decide +kernel, by decide⟩ rfl
  have key : readInput described.read "key.json" =
      .ok (Sdk.callsOnly "Entity.Key" []) := readInput_described
    ⟨⟨by decide, by decide, by decide⟩, by decide, by decide +kernel, by decide⟩ rfl
  have made : Sdk.new (Config.standard.override {}) Sdk.standard.now = .ok .standard :=
    Sdk.new_standard
  simp only [Job.prepare, Job.config, Job.configPath, config, List.mapM_cons,
    List.mapM_nil, client, key, made, bind, Except.bind, pure, Except.pure,
    Except.mapError]

theorem run_described :
    (run ["codegen", "sdk", "client.json", "key.json"] Sdk.standard.now described).1 =
      .error (.sdk (.rejected (.invalidApi "Entity.Key"))) := by
  have asked : Invocation.ofTexts ["codegen", "sdk", "client.json", "key.json"] =
      .ok (.generate ⟨"sdk", ["client.json", "key.json"], {}⟩) := by decide +kernel
  have place : FilePath.ofText? "sdk" = some ["sdk"] := by
    have relative : FilePath.isAbsolute "sdk" = false := by decide +kernel
    have steps : "sdk".splitOn "/" = ["sdk"] := by
      rw [splitOn_slash]
      decide
    rw [FilePath.ofText?, relative, steps]
    decide
  have rejected : Sdk.standard.plan [Sdk.callsOnly "Client" [],
      Sdk.callsOnly "Entity.Key" []] = .error (.invalidApi "Entity.Key") := by decide
  simp only [run, asked, Job.run, prepare_described, place,
    Sdk.write_of_rejected rejected, Except.mapError]

end Described

/-- Three APIs of which the last two are not accepted. -/
def dotted : List ApiDescription :=
  [Sdk.callsOnly "Client" [], Sdk.callsOnly "Entity.Key" [], Sdk.callsOnly "2D" []]

/-- The first description could have been written when the second one turned out to be
unfit. -/
theorem untouched_of_failure_described :
    run ["codegen", "sdk", "client.json", "key.json"] Sdk.standard.now described =
        (.error (.sdk (.rejected (.invalidApi "Entity.Key"))), described) ∧
      ∃ before api rest rejection, dotted = before ++ api :: rest ∧
        (∀ other ∈ before, ∃ accepted, Sdk.standard.accept other = .ok accepted) ∧
        Sdk.standard.accept api = .error rejection ∧
        Sdk.standard.write ["sdk"] described dotted =
          (.error (.rejected rejection), described) := by
  have both :=
    untouched_of_failure ["codegen", "sdk", "client.json", "key.json"] Sdk.standard.now
    described Sdk.standard ["sdk"] dotted
  have rejected :
      (Sdk.standard.names.sanitizer.sanitize
        (Sdk.callsOnly "Entity.Key" [])).api.check =
      .error (.invalidApi "Entity.Key") := by decide
  refine ⟨Prod.ext run_described ?_,
    both.2 ⟨Sdk.callsOnly "Entity.Key" [], by simp [dotted], ?_⟩⟩
  · rcases both.1 _ _ (Prod.ext run_described rfl)
      with ⟨_, untouched⟩ | ⟨failedWrite, _⟩
    · exact untouched
    · cases failedWrite
  · intro accepted accepts
    obtain ⟨rfl, passed⟩ := Sdk.accept_eq_ok_iff.mp accepts
    rw [rejected] at passed
    cases passed

end CommandLine

end GodotSdk
