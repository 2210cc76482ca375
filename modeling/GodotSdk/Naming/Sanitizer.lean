import GodotSdk.Text.Case

/-!
# Sanitizers

Names that the target environment has already taken are reserved, in any spelling that
differs only in case. A sanitizer gives new names to classes and properties whose names
are reserved. It exists only for a table and a brand whose new names are not reserved
either.
-/

namespace GodotSdk

/-! ## Reserved names -/

/-- A table of reserved names. -/
structure ReservedNames where
  names : List String
deriving DecidableEq, Repr

/-- Whether a name equals a reserved name up to case. -/
def ReservedNames.contains (table : ReservedNames) (name : String) : Bool :=
  table.names.any (Text.equalFold name)

/-- Classes of the engine that a generated class or property would hide. -/
def ReservedNames.engineClasses : ReservedNames := ⟨[
    "Container", "Resource", "Image", "Time", "OS", "Node", "Object", "File",
    "Directory", "Thread", "Mutex", "Semaphore", "Engine", "Input", "Camera", "Light",
    "Texture", "Material", "Shader", "Animation", "AudioStream", "VideoStream",
    "PackedScene"]⟩

/-! ## New names -/

/-- Why a brand cannot be used. -/
inductive NamingError
  | invalidBrand (brand : String)
  | prefixCollision (brand reserved : String)
  | suffixCollision (reserved : String)
deriving DecidableEq, Repr

def NamingError.message : NamingError → String
  | .invalidBrand brand => "brand `" ++ brand ++ "` isn't a valid identifier"
  | .prefixCollision brand reserved =>
      "prefixing reserved name `" ++ reserved ++ "` with `" ++ brand ++
        "` yields another reserved name"
  | .suffixCollision reserved =>
      "suffixing reserved name `" ++ reserved ++ "` yields another reserved name"

/-- The new name of a class. -/
def branded (brand name : String) : String :=
  brand ++ name

/-- The new name of a property. -/
def suffixed (name : String) : String :=
  name ++ "_"

/-- What goes wrong with the new names of one reserved name. -/
def ReservedNames.collisionAt? (table : ReservedNames) (brand name : String) :
    Option NamingError :=
  if table.contains (branded brand name) then some (.prefixCollision brand name)
  else if table.contains (suffixed name) then some (.suffixCollision name)
  else none

/-- The first reserved name, in the order of the table, whose new names are reserved
again. -/
def ReservedNames.collision? (table : ReservedNames) (brand : String) :
    Option NamingError :=
  table.names.findSome? (table.collisionAt? brand)

/-- A table and a brand that do not lead from one reserved name to another. -/
structure Sanitizer where
  reserved : ReservedNames
  brand : String
  closed : reserved.collision? brand = none

namespace Sanitizer

/-- The sanitizer for a table and a brand. -/
def new (table : ReservedNames) (brand : String) : Except NamingError Sanitizer :=
  match collides : table.collision? brand with
  | some error => .error error
  | none => .ok ⟨table, brand, collides⟩

def isReserved (sanitizer : Sanitizer) (name : String) : Bool :=
  sanitizer.reserved.contains name

/-- The name of a class: a reserved name gets the brand in front. -/
def className (sanitizer : Sanitizer) (name : String) : String :=
  if sanitizer.isReserved name then branded sanitizer.brand name else name

/-- The name of a property: a reserved name gets an underscore at the end. -/
def propertyName (sanitizer : Sanitizer) (name : String) : String :=
  if sanitizer.isReserved name then suffixed name else name

end Sanitizer

end GodotSdk
