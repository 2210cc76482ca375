import GodotSdk.Proofs.Models.Names

/-!
# Names that a client script declares

Apart from remarks, a client script declares its class and the functions of the calls,
in which only the guard that selects a credential declares variables. The links to the
request and the result of a call are remarks, as notes are.
-/

namespace GodotSdk

open Script (leakedNames)

/-- The names that a link to a datatype declares. -/
def linkNames (datatype : Option String) : List String :=
  datatype.toList.flatMap fun name => leakedNames (name ++ "]")

/-- The names that the remarks on a call declare. -/
def ApiCall.leakedNames (call : ApiCall) : List String :=
  linkNames call.request ++ linkNames call.result ++ leakedBy call.deprecation

namespace Script

variable {sdk : Sdk}

/-- A link declares what its datatype has after its first line. -/
theorem namesAt_link {names : SdkNames} (unbroken : '\n' ∉ names.brand.toList)
    {api : String} (named : '\n' ∉ api.toList) {label : String}
    (opens : isComment label.toList = true) (single : '\n' ∉ label.toList) (depth : Nat)
    (datatype : Option String) :
    namesAt depth [.line (label ++ names.modelReference api datatype ++ "]")] =
      linkNames datatype := by
  rw [namesAt_line, String.append_assoc, declaredNames_remark opens single]
  cases datatype with
  | none => exact leakedNames_of_feedless (feedless_append
      (by decide : '\n' ∉ "Dictionary".toList) (by decide))
  | some datatype =>
      have models : '\n' ∉ (names.modelsClass api ++ ".").toList :=
        feedless_append (feedless_append (feedless_append unbroken named) (by decide))
          (by decide)
      have same : leakedNames (names.sanitizer.className datatype ++ "]") =
          leakedNames (datatype ++ "]") := by
        rw [Sanitizer.className]
        split
        · rw [branded, String.append_assoc]
          exact leakedNames_append unbroken (datatype ++ "]")
        · rfl
      rw [SdkNames.modelReference, String.append_assoc, leakedNames_append models, same]
      simp [linkNames]

/-- The variables that the guard of a call declares. -/
def guardNames (call : ApiCall) : List String :=
  if call.guard? = some .selectCredential then ["auth_key", "auth_value"] else []

/-- The names that a call declares: those of its remarks, its function, and the
variables of its guard. -/
def callNames (call : ApiCall) : List String :=
  call.leakedNames ++ methodName call.name :: guardNames call

theorem identifiers_parameters :
    Text.isIdentifier "settings" = true ∧ Text.isIdentifier "request" = true ∧
    Text.isIdentifier "callback" = true ∧ Text.isIdentifier "auth_key" = true ∧
      Text.isIdentifier "auth_value" = true ∧
    Text.isIdentifier "push_error" = true := by
  refine ⟨?_, ?_, ?_, ?_, ?_, ?_⟩ <;> exact isIdentifier_of_mem_fixedNames (by decide)

theorem feedless_settingsField (credential : Credential) :
    '\n' ∉ credential.settingsField.toList := by
  cases credential <;> decide

theorem plainAll_failure {names : SdkNames} (unbroken : '\n' ∉ names.brand.toList)
    (guard : Guard) :
    Statement.PlainAll (failure names guard) := by
  have error : '\n' ∉ names.errorReference.toList :=
    feedless_append (feedless_append (feedless_append unbroken (by decide)) (by decide))
      (feedless_append unbroken (by decide))
  unfold failure
  refine plainAll_append (plainAll_append ?logged ?notified) ?leaves
  case logged =>
    cases guard.failureLog? <;>
      simp [Statement.PlainAll, Statement.Plain, Expr.FeedlessAll, Expr.Feedless,
        identifiers_parameters]
  case notified =>
    cases guard.failure? <;>
      simp [notify, errorObject, callback, Statement.when, Statement.PlainAll,
        Statement.Plain, Statement.PlainIn, Expr.FeedlessAll, Expr.FeedlessEntries,
        Expr.Feedless, Expr.Rooted, identifiers_parameters, error]
  case leaves => simp [Statement.PlainAll, Statement.Plain]

theorem plainAll_guardCode {names : SdkNames} (unbroken : '\n' ∉ names.brand.toList)
    (guard : Guard) :
    Statement.PlainAll (guardCode names guard) := by
  have fails := plainAll_failure unbroken guard
  cases guard with
  | titleId =>
      simp [guardCode, storedTitleId, requestTitleId, settings, request, Statement.when,
        Statement.PlainAll, Statement.Plain, Statement.PlainIn, Expr.FeedlessAll,
        Expr.Feedless, Expr.Rooted, identifiers_parameters, fails]
  | selectCredential =>
      simp [guardCode, storedCredential, settings, authKey, authValue,
        Credential.preference, Statement.PlainAll, Statement.Plain, Statement.PlainIn,
        Expr.Feedless, Expr.Rooted, identifiers_parameters, feedless_settingsField]
  | require credential =>
      simp [guardCode, storedCredential, settings, Statement.when, Statement.PlainAll,
        Statement.Plain, Statement.PlainIn, Expr.Feedless,
        feedless_settingsField, fails]

theorem namesAll_failure (names : SdkNames) (guard : Guard) :
    Statement.namesAll (failure names guard) = [] := by
  cases guard <;>
    simp [failure, Guard.failureLog?, Guard.failure?, notify, Statement.when,
      Statement.namesAll, Statement.names, Statement.namesIn]

theorem namesAll_guardCode (names : SdkNames) (guard : Guard) :
    Statement.namesAll (guardCode names guard) =
      if guard = .selectCredential then ["auth_key", "auth_value"] else [] := by
  cases guard <;>
    simp [guardCode, Credential.preference, Statement.when, Statement.namesAll,
      Statement.names, Statement.namesIn, namesAll_failure]

theorem plain_effectCode (effect : Effect) : (effectCode effect).Plain := by
  cases effect <;>
    simp [effectCode, Effect.path, Effect.credential, pathTests, conjunction,
      responseAt, responseName, storedCredential, settings, Statement.when,
      Statement.PlainAll, Statement.Plain, Statement.PlainIn, Expr.FeedlessAll,
      Expr.Feedless, Expr.Rooted, identifiers_parameters, feedless_settingsField]

theorem plainAll_completion (call : ApiCall) :
    Statement.PlainAll (completion call) := by
  have stores : Statement.PlainAll (effectsCode call.effects) := by
    unfold effectsCode
    split
    · trivial
    · simp [Statement.when, Statement.PlainAll, Statement.Plain, Statement.PlainIn,
        Expr.Feedless, responseName,
        plainAll_map fun effect _ => plain_effectCode effect]
  apply plainAll_append stores
  simp [notify, callback, responseName, Statement.when, Statement.PlainAll,
    Statement.Plain, Statement.PlainIn, Expr.FeedlessAll, Expr.Feedless, Expr.Rooted,
    identifiers_parameters]

theorem feedlessAll_authArguments (call : ApiCall) :
    Expr.FeedlessAll (authArguments call) := by
  unfold authArguments
  split
  · simp [authKey, authValue, Expr.FeedlessAll, Expr.Feedless]
  · split <;> simp [storedCredential, settings, Expr.FeedlessAll, Expr.Feedless,
      feedless_settingsField]

theorem plain_sendCode {names : SdkNames}
    (identifier : Text.isIdentifier names.brand = true) (call : ApiCall) :
    (sendCode names call).Plain := by
  have sender : Text.isIdentifier names.httpClass = true :=
    isIdentifier_branded identifier (by decide)
  have passed := feedlessAll_authArguments call
  simp [sendCode, settings, request, responseName, Statement.Plain, Expr.FeedlessAll,
    Expr.Feedless, Expr.Rooted, sender, feedless_of_isIdentifier sender, passed,
    plainAll_completion]

theorem names_sendCode (names : SdkNames) (call : ApiCall) :
    (sendCode names call).names = [] := by
  have stores : (call.effects.flatMap fun effect => (effectCode effect).names) = [] :=
    List.flatMap_eq_nil_iff.mpr fun effect _ => rfl
  have effects : Statement.namesAll (effectsCode call.effects) = [] := by
    unfold effectsCode
    split
    · rfl
    · simp [Statement.when, Statement.namesAll, Statement.names, Statement.namesIn,
        namesAll_map, stores]
  simp [sendCode, Statement.names, completion, namesAll_append, effects, notify,
    Statement.when, Statement.namesAll, Statement.namesIn]

theorem namesAt_guardSteps {names : SdkNames} (unbroken : '\n' ∉ names.brand.toList)
    (call : ApiCall) (depth : Nat) :
    namesAt depth (guardSteps names call) = guardNames call := by
  unfold guardSteps guardNames
  cases call.guard? with
  | none => simp
  | some guard =>
      rw [namesAt_append, namesAt_blank,
        namesAt_stepsAll (plainAll_guardCode unbroken guard), namesAll_guardCode]
      simp

theorem namesAt_callComments (unbroken : '\n' ∉ sdk.names.brand.toList) {api : String}
    (named : '\n' ∉ api.toList) (call : ApiCall) (depth : Nat) :
    namesAt depth (callComments sdk api call) = call.leakedNames := by
  have bare : namesAt depth [.line "##"] = [] := by
    rw [namesAt_line, declaredNames_of_comment (by decide) (by decide)]
  have request :=
    namesAt_link unbroken named
      (isComment_ofList (by decide) : isComment "## Request: [".toList = true)
    (feedless_ofList (by decide)) depth call.request
  have result :=
    namesAt_link unbroken named
      (isComment_ofList (by decide) : isComment "## Result: [".toList = true)
    (feedless_ofList (by decide)) depth call.result
  unfold callComments
  cases call.summary with
  | none =>
      rw [namesAt_append, namesAt_append, namesAt_nil, namesAt_cons, request, result,
        namesAt_obsoleteSteps, List.nil_append]
      rfl
  | some summary =>
      rw [namesAt_append, namesAt_append, namesAt_cons, namesAt_doc, bare, namesAt_cons,
        request, result, namesAt_obsoleteSteps]
      rfl

theorem declares_callHeader {names : SdkNames}
    (identifier : Text.isIdentifier names.brand = true) {call : ApiCall}
    (method : Text.isIdentifier (methodName call.name) = true) :
    Declares .staticFunction (methodName call.name) (callHeader names call ++ ":") := by
  have settings : '\n' ∉ names.settingsClass.toList :=
    feedless_append (feedless_of_isIdentifier identifier) (by decide)
  have others :
      '\n' ∉ ", request: Dictionary, callback: Callable = Callable()) -> void".toList :=
    feedless_ofList (by decide)
  refine ⟨method, "(settings: " ++ (names.settingsClass
    ++ (", request: Dictionary, callback: Callable = Callable()) -> void" ++ ":")), ?_,
    nameEnds_of_append (by decide) _,
    feedless_append (by decide)
      (feedless_append settings (feedless_append others (by decide)))⟩
  simp only [callHeader, DeclarationKind.opening, String.append_assoc]

theorem namesAt_callSteps (identifier : Text.isIdentifier sdk.names.brand = true)
    {api : String} (named : '\n' ∉ api.toList) {call : ApiCall}
    (method : Text.isIdentifier (methodName call.name) = true) (depth : Nat) :
    namesAt depth (callSteps sdk api call) = callNames call := by
  have unbroken := feedless_of_isIdentifier identifier
  have header := (declares_callHeader identifier method).namesAt_eq depth
  have sends : namesAt (depth + 1) (sendCode sdk.names call).steps = [] := by
    rw [namesAt_steps (plain_sendCode identifier call), names_sendCode]
  rw [callSteps, namesAt_append, namesAt_callComments unbroken named, namesAt_block,
    header, namesAt_append, namesAt_guardSteps unbroken, sends, List.append_nil]
  rfl

end Script

namespace Sdk

open Script

variable {config : Config} {now : Timestamp} {sdk : Sdk} {api : ApiDescription}
  {accepted : Sanitized}

theorem declaredNames_clientFile (made : Sdk.new config now = .ok sdk)
    (accepts : sdk.accept api = .ok accepted) :
    declaredNames (sdk.clientFile accepted).text.toList =
      sdk.names.clientClass api.name :: api.calls.flatMap callNames := by
  have scriptClass := (isIdentifier_classes made accepts).2
  have acceptable := acceptable_of_accept accepts
  have named := feedless_of_isIdentifier acceptable.identifier
  have functions : ∀ call ∈ accepted.api.calls,
      namesAt 0 ([.blank, .blank] ++ callSteps sdk accepted.api.name call) =
        callNames call := by
    intro call described
    rw [namesAt_append, namesAt_blanks, List.nil_append]
    exact namesAt_callSteps (isIdentifier_brand_of_new made) named
      (acceptable.methodIdentifiers call described) 0
  rw [clientFile, declaredNames_layout, clientSteps, namesAt_append,
    namesAt_scriptHeader _ scriptClass, namesAt_flatMap, List.flatMap_congr functions,
    name_of_accept accepts, eq_sanitize_of_accept accepts]
  rfl

end Sdk

end GodotSdk
