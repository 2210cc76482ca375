import GodotSdk.Naming.Sanitizer
import GodotSdk.Schema.Api

/-!
# Sanitized descriptions

A description in which no datatype, property or reference has a reserved name, together
with a log of what was renamed. A renamed property keeps its first name, so that
serialized data does not change.
-/

namespace GodotSdk

/-- A name that was changed, and where. -/
inductive Rename
  | datatype (before after : String)
  | property (owner before after : String)
  | reference (owner member before after : String)
deriving DecidableEq, Repr

def Rename.message : Rename → String
  | .datatype before after => "class `" ++ before ++ "` to `" ++ after ++ "`"
  | .property owner before after =>
      "property `" ++ before ++ "` to `" ++ after ++ "` in class `" ++ owner ++ "`"
  | .reference owner member before after =>
      "type `" ++ before ++ "` to `" ++ after ++ "` for property `" ++ owner ++ "." ++
        member ++ "`"

/-- A description after renaming, and the renames in the order of the description. -/
structure Sanitized where
  api : ApiDescription
  renames : List Rename

namespace Sanitizer

/-- A type whose reference, if it is one, has a name that is not reserved. -/
def actualType (sanitizer : Sanitizer) : ActualType → ActualType
  | .complex target => .complex (sanitizer.className target)
  | type => type

/-- A property with a name and a type that are not reserved. -/
def property (sanitizer : Sanitizer) (property : Property) : Property :=
  { property with
    name := sanitizer.propertyName property.name
    actualType := sanitizer.actualType property.actualType
    originalName :=
      if sanitizer.isReserved property.name then
        some (property.originalName.getD property.name)
      else property.originalName }

/-- A datatype in which no name is reserved. -/
def datatype (sanitizer : Sanitizer) (datatype : Datatype) : Datatype :=
  { datatype with
    name := sanitizer.className datatype.name
    properties := datatype.properties.map sanitizer.property }

/-- The renames in a property of the class `owner`, which is named as it is after
renaming. -/
def propertyRenames (sanitizer : Sanitizer) (owner : String) (property : Property) :
    List Rename :=
  let name := sanitizer.propertyName property.name
  (if sanitizer.isReserved property.name then
    [.property owner property.name name] else []) ++ match property.actualType with
      | .complex target =>
          if sanitizer.isReserved target then
            [.reference owner name target (sanitizer.className target)]
          else []
      | _ => []

/-- The renames in a datatype. -/
def datatypeRenames (sanitizer : Sanitizer) (datatype : Datatype) : List Rename :=
  let name := sanitizer.className datatype.name
  (if sanitizer.isReserved datatype.name then [.datatype datatype.name name] else [])
    ++ datatype.properties.flatMap (sanitizer.propertyRenames name)

/-- Rename everything in a description that has a reserved name. -/
def sanitize (sanitizer : Sanitizer) (api : ApiDescription) : Sanitized where
  api := { api with datatypes := api.datatypes.map sanitizer.datatype }
  renames := api.datatypes.flatMap sanitizer.datatypeRenames

end Sanitizer

end GodotSdk
