import GodotSdk.Proofs.Schema.Records
import GodotSdk.Proofs.Time.Rendering
import GodotSdk.Schema.Encode

/-!
# Values of descriptions

The value of a description is read as this description, part by part, if the year of
each date has four digits and each type is what its own name denotes. This holds in any
source that presents values as what they are, which the datatypes need: they are read
from data that is read whole first. The value has only whole numbers and is not nested
deeply, so nothing is lost in its text either.
-/

namespace GodotSdk

open Json (Draft Value)

/-- Whether a type is what its own name denotes. -/
def ActualType.IsNamed (type : ActualType) : Prop :=
  .ofName type.name = type

namespace Schema

theorem getD_map_some {α : Type} (value : Option α) :
    (value.map some).getD none = value := by
  cases value <;> rfl

/-! ## Named values -/

/-- Read a type by its name. -/
def readType {ν : Type} [Source ν] (node : ν) : Read ActualType := do
  return ActualType.ofName (← Source.text node)

section Parts

variable {ν : Type} [Source ν] {node : Value → ν} (presents : Presents node)

include presents

theorem readNamed_collection (collection : Collection) :
    readNamed collectionNames .array
      (node (.string (nameOf collectionNames collection))) = .ok collection := by
  rw [readNamed, presents.variant]
  cases collection <;> rfl

theorem readNamed_authMode (mode : AuthMode) :
    readNamed authModeNames .anonymous (node (.string (nameOf authModeNames mode))) =
      .ok mode := by
  rw [readNamed, presents.variant]
  cases mode <;> rfl

theorem readOptional_string {α : Type} {read : ν → Read α} {text : String} {part : α}
    (reads : read (node (.string text)) = .ok part) :
    readOptional read (node (.string text)) = .ok (some part) :=
  readOptional_of_given presents nofun reads

theorem readOptional_text (text : String) :
    readOptional Source.text (node (.string text)) = .ok (some text) :=
  readOptional_string presents (presents.text text)

/-! ## Parts of descriptions -/

theorem readDate_render {date : Timestamp} (plain : date.hasPlainYear) :
    readDate (node (.string date.render)) = .ok (some date) := by
  rw [readDate, readOptional_text presents]
  simp only [bind, Except.bind, Option.bind_some, Timestamp.ofText?_render plain]
  rfl

theorem readDeprecation_encode {deprecation : Deprecation}
    (plain : ∀ date ∈ deprecation.deprecatedAfter, date.hasPlainYear) :
    readDeprecation (node (encodeDeprecation deprecation)) = .ok deprecation := by
  have filled := Fills.empty node deprecationFields {}
    |>.optional "ReplacedBy" deprecation.replacedBy (fun part parts =>
      { parts with replacedBy := part }) rfl rfl rfl
      (fun name _ => read_defaulted (readOptional_text presents name) _)
    |>.optional "DeprecatedAfter" deprecation.deprecatedAfter (fun part parts =>
      { parts with deprecatedAfter := part })
      rfl rfl rfl (fun date member =>
        read_defaulted (readDate_render presents (plain date member)) _)
  have read : readRecord "Deprecation" deprecationFields {}
      (node (encodeDeprecation deprecation)) =
      .ok ⟨deprecation.replacedBy.map some, deprecation.deprecatedAfter.map some⟩ :=
    readRecord_of_fills presents filled rfl
  simp only [readDeprecation, read, bind, Except.bind, getD_map_some]
  rfl

/-- Whether the year of each date of a property has four digits. -/
def HasPlainYears (deprecation : Option Deprecation) : Prop :=
  ∀ part ∈ deprecation, ∀ date ∈ part.deprecatedAfter, date.hasPlainYear

theorem readOptional_deprecation {deprecation : Option Deprecation}
    (plain : HasPlainYears deprecation) :
    ∀ part ∈ deprecation, readOptional readDeprecation (node (encodeDeprecation part)) =
      .ok (some part) :=
  fun part member => readOptional_of_given presents
    nofun (readDeprecation_encode presents (plain part member))

theorem readProperty_encode {property : Property}
    (named : property.actualType.IsNamed)
    (plain : HasPlainYears property.deprecation) :
    readProperty (node (encodeProperty property)) = .ok property := by
  have type : readType (node (.string property.actualType.name)) =
      .ok property.actualType := by
    rw [readType, presents.text]
    exact congrArg Except.ok named
  have filled := Fills.empty node propertyFields {}
    |>.member "name" (.string property.name) rfl rfl
      (read_required (presents.text property.name) _)
    |>.member "actualtype" (.string property.actualType.name) rfl rfl
      (read_required type _)
    |>.optional "collection" property.collection (fun part parts =>
      { parts with collection := part }) rfl rfl rfl
      (fun collection _ => read_defaulted
        (readOptional_string presents (readNamed_collection presents collection)) _)
    |>.member "optional" (.bool property.isOptional) rfl rfl
      (read_defaulted (presents.bool property.isOptional) _)
    |>.optional "description" property.description (fun part parts =>
      { parts with description := part }) rfl rfl rfl
      (fun text _ => read_defaulted (readOptional_text presents text) _)
    |>.optional "deprecation" property.deprecation (fun part parts =>
      { parts with deprecation := part }) rfl rfl rfl
      (fun deprecation member =>
        read_defaulted (readOptional_deprecation presents plain deprecation member) _)
    |>.optional "originalName" property.originalName (fun part parts =>
      { parts with originalName := part })
      rfl rfl rfl (fun name _ => read_defaulted (readOptional_text presents name) _)
  have read : readRecord "Property" propertyFields {}
      (node (encodeProperty property)) = .ok {
      name := some property.name
      actualType := some property.actualType
      collection := property.collection.map some
      isOptional := some property.isOptional
      description := property.description.map some
      deprecation := property.deprecation.map some
      originalName := property.originalName.map some } :=
    readRecord_of_fills presents filled rfl
  simp only [readProperty, read, bind, Except.bind, getD_map_some]
  rfl

theorem readDatatype_encode {datatype : Datatype}
    (named : ∀ property ∈ datatype.properties, property.actualType.IsNamed)
    (plain : HasPlainYears datatype.deprecation)
    (plainProperties : ∀ property ∈ datatype.properties,
      HasPlainYears property.deprecation) :
    readDatatype (node (encodeDatatype datatype)) = .ok datatype := by
  have properties := readList_of_array presents fun property member =>
    readProperty_encode presents (named property member)
      (plainProperties property member)
  have filled := Fills.empty node datatypeFields {}
    |>.member "name" (.string datatype.name) rfl rfl
      (read_required (presents.text datatype.name) _)
    |>.member "properties" (.array (datatype.properties.map encodeProperty)) rfl rfl
      (read_defaulted properties _)
    |>.optional "description" datatype.description (fun part parts =>
      { parts with description := part }) rfl rfl rfl
      (fun text _ => read_defaulted (readOptional_text presents text) _)
    |>.optional "deprecation" datatype.deprecation (fun part parts =>
      { parts with deprecation := part }) rfl rfl rfl
      (fun deprecation member =>
        read_defaulted (readOptional_deprecation presents plain deprecation member) _)
  have read : readRecord "Datatype" datatypeFields {}
      (node (encodeDatatype datatype)) = .ok {
      name := some datatype.name
      properties := some datatype.properties
      description := datatype.description.map some
      deprecation := datatype.deprecation.map some } :=
    readRecord_of_fills presents filled rfl
  simp only [readDatatype, read, bind, Except.bind, getD_map_some]
  rfl

theorem readApiCall_encode {call : ApiCall} (plain : HasPlainYears call.deprecation) :
    readApiCall (node (encodeCall call)) = .ok call := by
  have filled := Fills.empty node apiCallFields {}
    |>.member "name" (.string call.name) rfl rfl
      (read_required (presents.text call.name) _)
    |>.member "url" (.string call.url) rfl rfl
      (read_required (presents.text call.url) _)
    |>.optional "request" call.request (fun part parts =>
      { parts with request := part }) rfl rfl rfl
      (fun name _ => read_defaulted (readOptional_text presents name) _)
    |>.optional "result" call.result (fun part parts => { parts with result := part })
      rfl rfl rfl
      (fun name _ => read_defaulted (readOptional_text presents name) _)
    |>.member "auth" (.string (nameOf authModeNames call.auth)) rfl rfl
      (read_defaulted (readNamed_authMode presents call.auth) _)
    |>.optional "summary" call.summary (fun part parts =>
      { parts with summary := part }) rfl rfl rfl
      (fun text _ => read_defaulted (readOptional_text presents text) _)
    |>.optional "deprecation" call.deprecation (fun part parts =>
      { parts with deprecation := part }) rfl rfl rfl
      (fun deprecation member =>
        read_defaulted (readOptional_deprecation presents plain deprecation member) _)
  have read : readRecord "ApiCall" apiCallFields {} (node (encodeCall call)) = .ok {
      name := some call.name
      url := some call.url
      request := call.request.map some
      result := call.result.map some
      auth := some call.auth
      summary := call.summary.map some
      deprecation := call.deprecation.map some } :=
    readRecord_of_fills presents filled rfl
  simp only [readApiCall, read, bind, Except.bind, getD_map_some]
  rfl

theorem readErrorCode_encode (code : ErrorCode) :
    readErrorCode (node (encodeErrorCode code)) = .ok code := by
  have filled := Fills.empty node errorCodeFields {}
    |>.member "name" (.string code.name) rfl rfl
      (read_required (presents.text code.name) _)
    |>.member "id" (.number (.int code.id.toInt)) rfl rfl
      (read_required (presents.int code.id) _)
  have read : readRecord "ErrorCode" errorCodeFields {} (node (encodeErrorCode code)) =
      .ok ⟨some code.name, some code.id⟩ :=
    readRecord_of_fills presents filled rfl
  simp only [readErrorCode, read, bind, Except.bind]
  rfl

/-- Read error codes by their keys. -/
def readErrors {ν : Type} [Source ν] (node : ν) : Read (OrderedMap ErrorCode) := do
  return .ofList (← readEntries readErrorCode (← Source.entries node))

theorem readErrors_encode (errors : OrderedMap ErrorCode) :
    readErrors (node (.object (errors.toList.map fun (key, code) =>
      (key, encodeErrorCode code)))) = .ok errors := by
  have entries : readEntries readErrorCode
      (errors.toList.map fun entry =>
        (.ok entry.1, .ok (node (encodeErrorCode entry.2)))) = .ok errors.toList :=
    readEntries_map fun entry _ => readErrorCode_encode presents entry.2
  have listed :
      Source.entries (node
        (.object (errors.toList.map fun (key, code) => (key, encodeErrorCode code)))) =
      .ok (errors.toList.map fun entry =>
        (.ok entry.1, .ok (node (encodeErrorCode entry.2)))) := by
    rw [presents.entries, List.map_map]
    rfl
  rw [readErrors, listed]
  show readEntries readErrorCode _ >>= _ = _
  rw [entries]
  exact congrArg Except.ok errors.ofList_toList

end Parts

/-! ## Values of descriptions -/

/-- Members whose values are whole, in which at most `depth` arrays and objects are
nested. -/
def WholeMembers (depth : Nat) (members : List (String × Value)) : Prop :=
  ∀ member ∈ members, member.2.Whole depth

namespace WholeMembers

variable {depth : Nat} {members : List (String × Value)}

theorem empty : WholeMembers depth [] :=
  nofun

theorem member (key : String) {value : Value} (others : WholeMembers depth members)
    (whole : value.Whole depth) :
    WholeMembers depth (members ++ [(key, value)]) :=
  List.forall_mem_append.mpr ⟨others, List.forall_mem_singleton.mpr whole⟩

theorem optional (key : String) {α : Type} {encode : α → Value}
    (others : WholeMembers depth members) (value : Option α)
    (whole : ∀ part, (encode part).Whole depth) :
    WholeMembers depth (members ++ optionalMember key encode value) := by
  cases value with
  | none => rw [optionalMember, List.append_nil]; exact others
  | some part => exact others.member key (whole part)

end WholeMembers

section Whole

variable {depth : Nat}

theorem whole_map {α : Type} {encode : α → Value} {parts : List α}
    (whole : ∀ part, (encode part).Whole depth) :
    (Value.array (parts.map encode)).Whole (depth + 1) :=
  .array (List.forall_mem_map.mpr fun part _ => whole part)

theorem whole_deprecation (deprecation : Deprecation) :
    (encodeDeprecation deprecation).Whole (depth + 1) :=
  .object (WholeMembers.empty
    |>.optional "ReplacedBy" deprecation.replacedBy .string
    |>.optional "DeprecatedAfter" deprecation.deprecatedAfter fun date =>
      .string date.render)

theorem whole_property (property : Property) :
    (encodeProperty property).Whole (depth + 2) :=
  .object (WholeMembers.empty
    |>.member "name" (.string property.name)
    |>.member "actualtype" (.string property.actualType.name)
    |>.optional "collection" property.collection (fun collection =>
      .string (nameOf collectionNames collection))
    |>.member "optional" (.bool property.isOptional)
    |>.optional "description" property.description .string
    |>.optional "deprecation" property.deprecation whole_deprecation
    |>.optional "originalName" property.originalName .string)

theorem whole_datatype (datatype : Datatype) :
    (encodeDatatype datatype).Whole (depth + 4) :=
  .object (WholeMembers.empty
    |>.member "name" (.string datatype.name)
    |>.member "properties" (whole_map whole_property)
    |>.optional "description" datatype.description .string
    |>.optional "deprecation" datatype.deprecation whole_deprecation)

theorem whole_call (call : ApiCall) : (encodeCall call).Whole (depth + 2) :=
  .object (WholeMembers.empty
    |>.member "name" (.string call.name)
    |>.member "url" (.string call.url)
    |>.optional "request" call.request .string
    |>.optional "result" call.result .string
    |>.member "auth" (.string (nameOf authModeNames call.auth))
    |>.optional "summary" call.summary .string
    |>.optional "deprecation" call.deprecation whole_deprecation)

theorem whole_errorCode (code : ErrorCode) :
    (encodeErrorCode code).Whole (depth + 1) := by
  have low : -(Nat.pow 2 63 : Int) ≤ code.id.toInt := code.id.le_toInt
  have high : code.id.toInt < Nat.pow 2 64 := Int.lt_trans code.id.toInt_lt (by decide)
  exact .object (WholeMembers.empty |>.member "name" (.string code.name) |>.member "id"
    (.int low high))

theorem whole_description (api : ApiDescription) :
    (encodeDescription api).Whole (depth + 6) :=
  .object (WholeMembers.empty
    |>.member "name" (.string api.name)
    |>.member "datatypes" (whole_map whole_datatype)
    |>.member "calls" (whole_map whole_call)
    |>.member "errorList" (whole_map .string)
    |>.member "errors"
      (.object (List.forall_mem_map.mpr fun entry _ => whole_errorCode entry.2)))

end Whole

/-! ## Whole descriptions -/

end Schema

namespace ApiDescription

/-- Everything that a description says on deprecated datatypes, properties and calls. -/
def deprecations (api : ApiDescription) : List Deprecation :=
  (api.datatypes.flatMap fun datatype =>
      datatype.deprecation.toList ++
      datatype.properties.flatMap (·.deprecation.toList)) ++
    api.calls.flatMap (·.deprecation.toList)

/-- The types of all properties in a description. -/
def types (api : ApiDescription) : List ActualType :=
  api.datatypes.flatMap fun datatype => datatype.properties.map (·.actualType)

section Members

variable {api : ApiDescription} {part : Deprecation} {datatype : Datatype}
  {property : Property} {call : ApiCall}

theorem mem_deprecations_of_datatype (listed : datatype ∈ api.datatypes)
    (given : part ∈ datatype.deprecation) :
    part ∈ api.deprecations :=
  List.mem_append_left _
    (List.mem_flatMap.mpr ⟨datatype, listed,
      List.mem_append_left _ (Option.mem_toList.mpr given)⟩)

theorem mem_deprecations_of_property (listed : datatype ∈ api.datatypes)
    (member : property ∈ datatype.properties)
    (given : part ∈ property.deprecation) : part ∈ api.deprecations :=
  List.mem_append_left
    _ (List.mem_flatMap.mpr ⟨datatype, listed, List.mem_append_right _
    (List.mem_flatMap.mpr ⟨property, member, Option.mem_toList.mpr given⟩)⟩)

theorem mem_deprecations_of_call (listed : call ∈ api.calls)
    (given : part ∈ call.deprecation) :
    part ∈ api.deprecations :=
  List.mem_append_right
    _ (List.mem_flatMap.mpr ⟨call, listed, Option.mem_toList.mpr given⟩)

theorem mem_types (listed : datatype ∈ api.datatypes)
    (member : property ∈ datatype.properties) :
    property.actualType ∈ api.types :=
  List.mem_flatMap.mpr ⟨datatype, listed, List.mem_map_of_mem member⟩

end Members

end ApiDescription

namespace Schema

/-- Read datatypes from data that is read whole first. -/
def readDatatypes {ν : Type} [Source ν] (node : ν) : Read (List Datatype) := do
  datatypesOf (← Source.content node)

variable {api : ApiDescription}

theorem readDatatypes_encode (named : ∀ type ∈ api.types, type.IsNamed)
    (plain : ∀ part ∈ api.deprecations, ∀ date ∈ part.deprecatedAfter,
      date.hasPlainYear) :
    readDatatypes (Draft.ofValue (.array (api.datatypes.map encodeDatatype))) =
      .ok api.datatypes := by
  have content :
      Source.content (Draft.ofValue (.array (api.datatypes.map encodeDatatype))) =
      .ok (FromValue.asContent (.array (api.datatypes.map encodeDatatype))) :=
    asContent_ofValue (whole_map whole_datatype : Value.Whole 126 _)
  have listed := readList_of_array presents_content fun datatype listed =>
    readDatatype_encode presents_content
      (fun property member => named _ (ApiDescription.mem_types listed member))
      (fun part given =>
        plain part (ApiDescription.mem_deprecations_of_datatype listed given))
      (fun property member part given =>
        plain part (ApiDescription.mem_deprecations_of_property listed member given))
  rw [readDatatypes, content]
  show datatypesOf _ = _
  rw [datatypesOf, listed]

/-- The description that was written is read from its value. -/
theorem readApiDescription_encode (named : ∀ type ∈ api.types, type.IsNamed)
    (plain : ∀ part ∈ api.deprecations, ∀ date ∈ part.deprecatedAfter,
      date.hasPlainYear) :
    readApiDescription (Draft.ofValue (encodeDescription api)) = .ok api := by
  have calls := readList_of_array presents_draft fun call listed =>
    readApiCall_encode presents_draft fun part given =>
      plain part (ApiDescription.mem_deprecations_of_call listed given)
  have errorList := readList_of_array presents_draft
      fun text (_ : text ∈ api.errorList) => presents_draft.text text
  have filled := Fills.empty Draft.ofValue (apiDescriptionFields readDatatypes) {}
    |>.member "name" (.string api.name) rfl rfl
      (read_required (presents_draft.text api.name) _)
    |>.member "datatypes" _ rfl rfl
      (read_defaulted (readDatatypes_encode named plain) _)
    |>.member "calls" _ rfl rfl (read_defaulted calls _)
    |>.member "errorList" _ rfl rfl (read_defaulted errorList _)
    |>.member "errors" _ rfl rfl
      (read_defaulted (readErrors_encode presents_draft api.errors) _)
  have read : readRecord "ApiDescription" (apiDescriptionFields readDatatypes) {}
      (Draft.ofValue (encodeDescription api)) = .ok {
        name := some api.name
        datatypes := some api.datatypes
        calls := some api.calls
        errorList := some api.errorList
        errors := some api.errors } :=
    readRecord_of_fills presents_draft filled rfl
  show readRecord "ApiDescription" (apiDescriptionFields readDatatypes) {} _ >>= _ = _
  rw [read]
  rfl

end Schema

end GodotSdk
