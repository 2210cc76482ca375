import GodotSdk.Proofs.Models.Names
import GodotSdk.Proofs.Sdk.ErrorCatalog

/-!
# Names that the settings and the errors script declare

Most of these names are the same in every SDK. The others are the classes, which begin
with the brand, and the error codes that have an identifier as their name. No remarks
are in these scripts.
-/

namespace GodotSdk

namespace Script

/-! ## Fixed names -/

/-- The names of the settings object: its fields, and the function that empties some of
them. -/
def settingsNames : List String :=
  ["title_id", "vertical_name"] ++ Credential.preference.map Credential.settingsField ++
    ["forget_all_credentials"]

/-- The names of the class of failed calls: its fields, its functions, and a variable of
the last. -/
def errorClassNames : List String :=
  ["error", "error_code", "error_message", "error_details", "http_code", "http_status",
    "_init", "generate_error_report", "report"]

theorem fixed_of_settingsNames : ∀ name ∈ settingsNames, name ∈ fixedNames := by
  decide

theorem fixed_of_errorClassNames : ∀ name ∈ errorClassNames, name ∈ fixedNames := by
  decide

/-! ## The settings script -/

section Settings

/-- The names of the constants that tell which build the scripts belong to. -/
def constantNames (config : Config) : List String :=
  (config.version.map fun _ => "SDK_VERSION").toList ++
    (config.buildIdentifier.map fun _ => "BUILD_IDENTIFIER").toList

theorem namesAt_constant {name : String} (identifier : Text.isIdentifier name = true)
    (value : String) (depth : Nat) :
    namesAt depth [.line ("const " ++ name ++ " := " ++ quote value)] = [name] := by
  have word : "const " = "const" ++ " " := rfl
  have blank : endsName ' ' = true := by decide
  have opened :=
    feedless_append (by decide : '\n' ∉ "const ".toList)
      (feedless_of_isIdentifier identifier)
  have assigned := feedless_append opened (by decide : '\n' ∉ " := ".toList)
  have declared : lineName? ("const " ++ name ++ " := " ++ quote value).toList =
      some name := by
    rw [word]
    simp only [String.toList_append, List.append_assoc]
    exact lineName?_declaration (by decide : "const" ∈ declaringWords) identifier
      (by simpa using blank)
  rw [namesAt_line, declaredNames_of_feedless
    (feedless_append assigned (not_mem_quote (by decide) value)), declared]
  rfl

theorem namesAt_buildConstants (config : Config) :
    namesAt 0 (buildConstants config) = constantNames config := by
  have version (value : String) :
      namesAt 0 [.line ("const SDK_VERSION := " ++ quote value)] = ["SDK_VERSION"] :=
    namesAt_constant
      (isIdentifier_of_mem_fixedNames (by decide : "SDK_VERSION" ∈ fixedNames)) value 0
  have build (value : String) : namesAt 0
      [.line ("const BUILD_IDENTIFIER := " ++ quote value)] = ["BUILD_IDENTIFIER"] :=
    namesAt_constant (isIdentifier_of_mem_fixedNames
      (by decide : "BUILD_IDENTIFIER" ∈ fixedNames)) value 0
  unfold buildConstants constantNames
  cases config.version with
  | none =>
      cases config.buildIdentifier with
      | none => exact namesAt_nil 0
      | some identifier =>
          change namesAt 0 [.blank,
            .line ("const BUILD_IDENTIFIER := " ++ quote identifier)] =
            ["BUILD_IDENTIFIER"]
          rw [namesAt_cons, namesAt_blank, build, List.nil_append]
  | some number =>
      cases config.buildIdentifier with
      | none =>
          change namesAt 0 [.blank,
            .line ("const SDK_VERSION := " ++ quote number.render)] = ["SDK_VERSION"]
          rw [namesAt_cons, namesAt_blank, version, List.nil_append]
      | some identifier =>
          change namesAt 0 [.blank,
            .line ("const SDK_VERSION := " ++ quote number.render),
            .line ("const BUILD_IDENTIFIER := " ++ quote identifier)] = ["SDK_VERSION",
            "BUILD_IDENTIFIER"]
          rw [namesAt_cons, namesAt_blank, namesAt_cons, version, build,
            List.nil_append]
          rfl

theorem namesAt_textField {name : String} (identifier : Text.isIdentifier name = true) :
    namesAt 0 [.line ("var " ++ name ++ ": String = \"\"")] = [name] := by
  have ends : ∀ char ∈ (": String = \"\"").toList.head?, char ∈ nameEnds :=
    nameEnds_ofList (by decide)
  have declared := namesAt_declaration .variable identifier ends (by decide) 0
  rw [DeclarationKind.opening] at declared
  rw [String.append_assoc, declared]

theorem isIdentifier_settingsField (credential : Credential) :
    Text.isIdentifier credential.settingsField = true := by
  apply isIdentifier_of_mem_fixedNames
  cases credential <;> decide

theorem namesAt_credentialField (credential : Credential) :
    namesAt 0 (credentialField credential) = [credential.settingsField] := by
  rw [credentialField, namesAt_cons, namesAt_doc,
    namesAt_textField (isIdentifier_settingsField credential), List.nil_append]

theorem namesAt_settingsSteps {sdk : Sdk}
    (identifier : Text.isIdentifier sdk.names.brand = true) :
    namesAt 0 (settingsSteps sdk) = sdk.names.settingsClass ::
      (constantNames sdk.config ++ settingsNames) := by
  have title : namesAt 0 [.line "var title_id: String = \"\""] = ["title_id"] := by
    have parts : "var title_id: String = \"\"" =
        "var " ++ ("title_id" ++ ": String = \"\"") := ofList_eq_append rfl
    rw [parts, ← String.append_assoc,
      namesAt_textField (isIdentifier_of_mem_fixedNames (by decide))]
  have vertical (value : String) :
      namesAt 0 [.line ("var vertical_name: String = " ++ quote value)] =
      ["vertical_name"] := by
    have opening : "var vertical_name: String = " =
        "var " ++ ("vertical_name" ++ ": String = ") :=
      ofList_eq_append rfl
    have single :=
      feedless_append (by decide : '\n' ∉ ": String = ".toList)
        (not_mem_quote (by decide) value)
    rw [opening, String.append_assoc, String.append_assoc]
    exact namesAt_declaration .variable (isIdentifier_of_mem_fixedNames (by decide))
      (nameEnds_of_append (by decide) _) single 0
  have credentials : namesAt 0 (Credential.preference.flatMap credentialField) =
      Credential.preference.map Credential.settingsField := by
    rw [namesAt_flatMap, List.map_eq_flatMap]
    exact List.flatMap_congr fun credential _ => namesAt_credentialField credential
  have forgets : namesAt 0 [.line ("func forget_all_credentials() -> void" ++ ":")] =
      ["forget_all_credentials"] := by
    have parts : "func forget_all_credentials() -> void" ++ ":" =
        "func " ++ ("forget_all_credentials" ++ "() -> void:") := ofList_append_eq rfl
    rw [parts]
    exact namesAt_declaration .function (isIdentifier_of_mem_fixedNames (by decide))
      (nameEnds_ofList (by decide)) (feedless_ofList (by decide)) _
  have cleared (credential : Credential) :
      namesAt 1 [.line (credential.settingsField ++ " = \"\"")] = [] := by
    have identifier := isIdentifier_settingsField credential
    apply namesAt_line_eq_nil
      (feedless_append (feedless_of_isIdentifier identifier) (by decide))
    rw [String.toList_append]
    exact lineName?_of_use identifier (by simp) (.inr rfl)
  have body : namesAt 1 ([Credential.sessionTicket, .entityToken].map fun credential =>
      .line (credential.settingsField ++ " = \"\"")) = [] := by
    rw [List.map_eq_flatMap, namesAt_flatMap, List.flatMap_eq_nil_iff]
    exact fun credential _ => cleared credential
  have fields : namesAt 0 [.blank, .line "var title_id: String = \"\"",
      .line ("var vertical_name: String = " ++
        quote (sdk.config.verticalName.getD ""))] = ["title_id", "vertical_name"] := by
    rw [namesAt_cons, namesAt_blank, namesAt_cons, title, vertical]
    rfl
  have functions :
      namesAt 0 [.blank, .doc "Forgets the credentials stored by login calls.",
      .block "func forget_all_credentials() -> void"
        ([Credential.sessionTicket, .entityToken].map fun credential =>
          .line (credential.settingsField ++ " = \"\""))] =
          ["forget_all_credentials"] := by
    rw [namesAt_cons, namesAt_blank, namesAt_cons, namesAt_doc, namesAt_block,
      forgets, body]
    rfl
  have named : Text.isIdentifier sdk.names.settingsClass = true :=
    isIdentifier_branded identifier (by decide)
  rw [settingsSteps, namesAt_append, namesAt_append, namesAt_append, namesAt_append,
    namesAt_scriptHeader _ named, namesAt_buildConstants, fields, credentials,
    functions]
  simp [settingsNames]

end Settings

/-! ## The errors script -/

section Errors

theorem namesAt_errorClassSteps {names : SdkNames}
    (identifier : Text.isIdentifier names.brand = true) :
    namesAt 0 (errorClassSteps names) = names.errorClass :: errorClassNames := by
  have header :
      namesAt 0 [.line ("class " ++ names.errorClass ++ " extends RefCounted" ++ ":")] =
      [names.errorClass] :=
    (declares_class (isIdentifier_branded identifier (by decide))).namesAt_eq 0
  have split (depth : Nat) (first second : Step) (rest : List Step) :=
    namesAt_cons depth first (second :: rest)
  rw [errorClassSteps, namesAt_cons, namesAt_doc, namesAt_block, header,
    List.nil_append, List.singleton_append, List.cons.injEq]
  refine ⟨rfl, ?_⟩
  simp only [split, namesAt_doc, namesAt_blank, namesAt_block, namesAt_line,
    String.toList_append]
  repeat rw [String.toList_ofList]
  decide +kernel

theorem namesAt_errorCode {code : String × Int64}
    (identifier : Text.isIdentifier code.1 = true) (depth : Nat) :
    namesAt depth [.line (code.1 ++ " = " ++ toString code.2.toInt ++ ",")] = [] := by
  have named :=
    feedless_append (feedless_of_isIdentifier identifier)
      (by decide : '\n' ∉ " = ".toList)
  have valued :=
    feedless_append (feedless_append named (feedless_toString code.2.toInt))
      (by decide : '\n' ∉ ",".toList)
  apply namesAt_line_eq_nil valued
  simp only [String.toList_append, List.append_assoc]
  exact lineName?_of_use identifier (by simp) (.inr rfl)

theorem namesAt_errorCodeLines {codes : List (String × Int64)}
    (identifiers : ∀ code ∈ codes, Text.isIdentifier code.1 = true) (depth : Nat) :
    namesAt depth (codes.map fun (name, id) =>
      .line (name ++ " = " ++ toString id.toInt ++ ",")) = [] := by
  rw [List.map_eq_flatMap, namesAt_flatMap, List.flatMap_eq_nil_iff]
  exact fun code among => namesAt_errorCode (identifiers code among) depth

theorem namesAt_errorCodeSteps {codes : List (String × Int64)}
    (identifiers : ∀ code ∈ codes, Text.isIdentifier code.1 = true) :
    namesAt 0 (errorCodeSteps codes) = if codes = [] then [] else ["ErrorCode"] := by
  have opening : namesAt 0 [.line "enum ErrorCode \x7b"] = ["ErrorCode"] := by
    have parts : "enum ErrorCode \x7b".toList = "enum".toList ++
        ' ' :: ("ErrorCode".toList ++ " \x7b".toList) := rfl
    have blank : endsName ' ' = true := by decide
    have declared : lineName? "enum ErrorCode \x7b".toList = some "ErrorCode" := by
      rw [parts]
      exact lineName?_declaration (by decide)
        (isIdentifier_of_mem_fixedNames (by decide)) (by simpa using blank)
    rw [namesAt_line, declaredNames_of_feedless (by decide), declared]
    rfl
  have closing : namesAt 0 [.line "\x7d"] = [] := by
    have brace : Text.continuesIdentifier '\x7d' = false := by decide
    have visible : Text.isBlank '\x7d' = false := by decide
    refine namesAt_line_eq_nil (by decide) (lineName?_of_stop ?_) 0
    simpa [Text.trimStart, visible] using brace
  cases codes with
  | nil => exact namesAt_nil 0
  | cons code rest =>
      rw [errorCodeSteps, List.isEmpty_cons, if_neg (by decide),
        if_neg (List.cons_ne_nil code rest), namesAt_cons, namesAt_blank, namesAt_cons,
        opening, namesAt_cons, namesAt_indented,
        namesAt_errorCodeLines identifiers, closing]
      rfl

theorem namesAt_errorsSteps {sdk : Sdk}
    (identifier : Text.isIdentifier sdk.names.brand = true)
    (catalog : Option ApiDescription) :
    namesAt 0 (errorsSteps sdk catalog) = sdk.names.errorsClass ::
      ((if errorCodes catalog = [] then [] else ["ErrorCode"]) ++
        sdk.names.errorClass :: errorClassNames) := by
  have named : Text.isIdentifier sdk.names.errorsClass = true :=
    isIdentifier_branded identifier (by decide)
  rw [errorsSteps, namesAt_append, namesAt_append, namesAt_append,
    namesAt_scriptHeader _ named, namesAt_blanks, namesAt_errorCodeSteps fun _ among =>
      isIdentifier_of_mem_errorCodes among, namesAt_errorClassSteps identifier]
  simp

end Errors

end Script

namespace Sdk

open Script

variable {config : Config} {now : Timestamp} {sdk : Sdk} {name : String}

theorem isIdentifier_of_mem_settingsFile (made : Sdk.new config now = .ok sdk)
    (declared : name ∈ declaredNames sdk.settingsFile.text.toList) :
    Text.isIdentifier name = true := by
  have brand := isIdentifier_brand_of_new made
  have constants : ∀ name ∈ constantNames sdk.config, name ∈ fixedNames := by
    unfold constantNames
    cases sdk.config.version <;> cases sdk.config.buildIdentifier <;> simp [fixedNames]
  rw [settingsFile, declaredNames_layout, namesAt_settingsSteps brand, List.mem_cons,
    List.mem_append] at declared
  rcases declared with rfl | constant | field
  · exact isIdentifier_branded brand (by decide)
  · exact isIdentifier_of_mem_fixedNames (constants name constant)
  · exact isIdentifier_of_mem_fixedNames (fixed_of_settingsNames name field)

theorem isIdentifier_of_mem_errorsFile (made : Sdk.new config now = .ok sdk)
    (catalog : Option ApiDescription)
    (declared : name ∈ declaredNames (sdk.errorsFile catalog).text.toList) :
    Text.isIdentifier name = true := by
  have brand := isIdentifier_brand_of_new made
  rw [errorsFile, declaredNames_layout, namesAt_errorsSteps brand, List.mem_cons,
    List.mem_append, List.mem_cons] at declared
  rcases declared with rfl | enumeration | rfl | field
  · exact isIdentifier_branded brand (by decide)
  · split at enumeration
    · cases enumeration
    · obtain rfl := List.mem_singleton.mp enumeration
      exact isIdentifier_of_mem_fixedNames (by decide)
  · exact isIdentifier_branded brand (by decide)
  · exact isIdentifier_of_mem_fixedNames (fixed_of_errorClassNames name field)

theorem identifier_of_shared (made : Sdk.new config now = .ok sdk)
    (catalog : Option ApiDescription) :
    ∀ file ∈ [sdk.settingsFile, sdk.errorsFile catalog],
      ∀ name ∈ declaredNames file.text.toList, Text.isIdentifier name = true := by
  intro file written name declared
  rcases List.mem_pair.mp written with rfl | rfl
  · exact isIdentifier_of_mem_settingsFile made declared
  · exact isIdentifier_of_mem_errorsFile made catalog declared

/-- The names of the error codes are identifiers, whatever the catalog is. -/
theorem isIdentifier_errorCodes (made : Sdk.new config now = .ok sdk)
    (catalog : Option ApiDescription) :
    ∀ entries ∈ enumeration? "ErrorCode" (sdk.errorsFile catalog).text,
      ∀ entry ∈ entries,
      ∃ name value, entry = some (name, value) ∧ Text.isIdentifier name = true := by
  intro entries read entry among
  rw [errorsFile, enumeration?_errorsSteps (isIdentifier_brand_of_new made)] at read
  split at read
  · cases read
  · obtain rfl := Option.some.inj read
    obtain ⟨code, listed, rfl⟩ := List.mem_map.mp among
    exact ⟨code.1, code.2.toInt, rfl, isIdentifier_of_mem_errorCodes listed⟩

end Sdk

end GodotSdk
