import GodotSdk.Script.Directive
import GodotSdk.Script.Layout
import GodotSdk.Script.Member
import GodotSdk.Sdk.Config

/-!
# Scripts of an API

The models script has one class for each datatype, which is filled from a dictionary and
written to one. The client script has one static function for each call, which takes the
settings to authenticate with, the request, and a callback for the result and the error.
-/

namespace GodotSdk.Script

/-! ## The models script -/

/-- The members of a model. -/
def modelMembers (sdk : Sdk) (datatype : Datatype) : List Member :=
  datatype.properties.map fun property => ⟨sdk.names.sanitizer, property⟩

/-- The body of the function that fills a model. -/
def loadBody (members : List Member) : List Statement :=
  (if members.isEmpty then [.pass] else []) ++ members.map Member.load

/-- The body of the function that writes a model. -/
def storeBody (members : List Member) : List Statement :=
  .declare "result" .emptyDictionary ::
    (members.map Member.store ++ [.answer (.variable "result")])

/-- A member variable with its comments. -/
def memberSteps (now : Timestamp) (member : Member) : List Step :=
  descriptionSteps member.property.description
    ++ obsoleteSteps (Obsolete.of? now member.property.deprecation)
    ++ [.line member.declaration]

/-- A model class. -/
def modelSteps (sdk : Sdk) (datatype : Datatype) : List Step :=
  let members := modelMembers sdk datatype
  descriptionSteps datatype.description
    ++ obsoleteSteps (Obsolete.of? sdk.now datatype.deprecation)
    ++ [.block ("class " ++ datatype.name ++ " extends RefCounted") (
      members.flatMap (memberSteps sdk.now)
        ++ (if members.isEmpty then [] else [.blank])
        ++ [.block "func _init(data: Dictionary = \x7b\x7d) -> void"
            (Statement.stepsAll (loadBody members)),
          .blank,
          .block "func to_dict() -> Dictionary"
            (Statement.stepsAll (storeBody members))])]

/-- The models script of a sanitized API. -/
def modelsSteps (sdk : Sdk) (api : ApiDescription) : List Step :=
  scriptHeader
    ("Request, result, and shared models for the " ++ sdk.names.brand ++ " " ++
      api.name ++ " API.")
    (sdk.names.modelsClass api.name)
  ++ api.datatypes.flatMap fun datatype => [.blank, .blank] ++ modelSteps sdk datatype

/-! ## The client script -/

/-- The comments on a function. -/
def callComments (sdk : Sdk) (api : String) (call : ApiCall) : List Step :=
  (match call.summary with
    | some summary => [.doc summary, .line "##"]
    | none => [])
  ++ [.line ("## Request: [" ++ sdk.names.modelReference api call.request ++ "]"),
    .line ("## Result: [" ++ sdk.names.modelReference api call.result ++ "]")]
  ++ obsoleteSteps (Obsolete.of? sdk.now call.deprecation)

/-- The header of a function. -/
def callHeader (names : SdkNames) (call : ApiCall) : String :=
  "static func " ++ methodName call.name ++ "(settings: " ++ names.settingsClass
    ++ ", request: Dictionary, callback: Callable = Callable()) -> void"

/-- What happens when the response arrives. -/
def completion (call : ApiCall) : List Statement :=
  effectsCode call.effects ++ [notify (.variable responseName) (.variable "error")]

/-- Send the request of a call. -/
def sendCode (names : SdkNames) (call : ApiCall) : Statement :=
  .invokeWith (.variable names.httpClass) "post"
    ([settings, .text call.url, request] ++ authArguments call) [responseName, "error"]
    (completion call)

/-- The check that a function makes first. -/
def guardSteps (names : SdkNames) (call : ApiCall) : List Step :=
  match call.guard? with
  | some guard => Statement.stepsAll (guardCode names guard) ++ [.blank]
  | none => []

/-- The function of a call. -/
def callSteps (sdk : Sdk) (api : String) (call : ApiCall) : List Step :=
  callComments sdk api call ++ [.block (callHeader sdk.names call)
    (guardSteps sdk.names call ++ (sendCode sdk.names call).steps)]

/-- The client script of a sanitized API. -/
def clientSteps (sdk : Sdk) (api : ApiDescription) : List Step :=
  scriptHeader ("The " ++ sdk.names.brand ++ " " ++ api.name ++ " API.")
    (sdk.names.clientClass api.name)
  ++ api.calls.flatMap fun call => [.blank, .blank] ++ callSteps sdk api.name call

end GodotSdk.Script
