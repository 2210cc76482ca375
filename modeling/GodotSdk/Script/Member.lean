import GodotSdk.Script.Code
import GodotSdk.Script.Type

/-!
# Members

How a property becomes a member variable of a model class. The member has the sanitized
name, and serialized data the first name of the property.
-/

namespace GodotSdk.Script

/-- A property to be written as a member. -/
structure Member where
  sanitizer : Sanitizer
  property : Property

namespace Member

/-- The name of the member variable. -/
def name (member : Member) : String :=
  member.sanitizer.propertyName member.property.name

/-- The key in serialized data. -/
def key (member : Member) : String :=
  member.property.wireName

/-- The type of the member, whether it is optional or not. -/
def type (member : Member) : MemberType :=
  .of member.sanitizer member.property.actualType member.property.collection

/-- The type annotation. An optional member has none, since it may hold null. -/
def annotation? (member : Member) : Option MemberType :=
  if member.property.isOptional then none else some member.type

/-- The value that the member starts with. -/
def initial (member : Member) : Literal :=
  match member.annotation? with
  | some type => type.initial
  | none => .null

/-- The declaration of the member variable. -/
def declaration (member : Member) : String :=
  let annotation := match member.annotation? with
    | some type => ": " ++ type.render
    | none => ""
  "var " ++ member.name ++ annotation ++ " = " ++ member.initial.render

/-- Take the member's value from the dictionary `data`, if it is there. -/
def load (member : Member) : Statement :=
  .when (.invoke (.variable "data") "has" [.text member.key])
    [.assign (.variable member.name) (.index (.variable "data") (.text member.key))]

/-- Put the member's value into the dictionary `result`. -/
def store (member : Member) : Statement :=
  .assign (.index (.variable "result") (.text member.key)) (.variable member.name)

/-- The text of a statement by itself, without the end of its last line. -/
def statementText (statement : Statement) : String :=
  String.ofList (layout statement.steps).toList.dropLast

end Member

end GodotSdk.Script
