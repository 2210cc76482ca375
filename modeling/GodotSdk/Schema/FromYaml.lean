import GodotSdk.Schema.Content
import GodotSdk.Yaml.Node
import GodotSdk.Yaml.Plain

/-!
# Descriptions in YAML documents

A node of a YAML document is a source of structured data. Where a text is wanted, any
scalar is taken as it is written; elsewhere scalars mean what they look like, unless
they are quoted or tagged. Aliases are followed, and collections may be nested to a
limit.
-/

namespace GodotSdk.Schema

open GodotSdk.Yaml (Document Node Plain ScalarStyle)

/-- A node within its document. At most `depth` collections may be nested from here on.
A document without any node is like an empty record. -/
structure YamlNode where
  document : Document
  depth : Nat
  node : Option Node

namespace FromYaml

/-- The tags that are known. -/
inductive KnownTag
  | bool
  | int
  | float
  | null
deriving DecidableEq

def knownTag? : String → Option KnownTag
  | "tag:yaml.org,2002:bool" => some .bool
  | "tag:yaml.org,2002:int" => some .int
  | "tag:yaml.org,2002:float" => some .float
  | "tag:yaml.org,2002:null" => some .null
  | _ => none

/-- The name in a local tag, which begins with an exclamation mark. -/
def localTag? (tag : Option String) : Option String :=
  tag.bind fun tag =>
    match tag.toList with
    | '!' :: rest => some (String.ofList rest)
    | _ => none

/-- What a scalar is, by its look alone. -/
def plainFound (text : String) : Plain → Found
  | .nothing => .nothing
  | .bool value => .bool value
  | .int value => .int value
  | .wideInt value => .wideInt value
  | .float value => .float value
  | .infinite negative => .infinite negative
  | .notANumber => .notANumber
  | .word => .text text

/-- What a scalar with a known tag is, which must look like it. -/
def taggedFound (text : String) (tag : KnownTag) : Read Found :=
  match tag with
  | .bool => match Plain.bool? text with
      | some value => .ok (.bool value)
      | none => unfit (.value (.text text) "a boolean")
  | .int => match Plain.integer? text.toList with
      | some value => .ok (plainFound text value)
      | none => unfit (.value (.text text) "an integer")
  | .float => match Plain.float? text.toList with
      | some value => .ok (plainFound text value)
      | none => unfit (.value (.text text) "a float")
  | .null =>
      if Plain.isNothing text then .ok .nothing else unfit (.value (.text text) "null")

/-- What a scalar is. -/
def scalarFound (tag : Option String) (style : ScalarStyle) (text : String) :
    Read Found :=
  match tag.bind knownTag? with
  | some tag => taggedFound text tag
  | none =>
      if style = .plain && (tag.isNone || (localTag? tag).isSome) then
        .ok (plainFound text (Plain.ofText text))
      else .ok (.text text)

/-- Fail because another kind of node is expected. -/
def wrongKind {α : Type} (expected : String) : Node → Read α
  | .scalar _ tag style text => do unfit (.type (← scalarFound tag style text) expected)
  | .sequence .. => unfit (.type .sequence expected)
  | .mapping .. => unfit (.type .map expected)
  | .alias _ => unfit (.type .nothing expected)

/-- The node that an alias stands for, or the node itself. -/
def follow (document : Document) (node : Node) : Node :=
  match node with
  | .alias anchor => (document.target? anchor).getD node
  | node => node

/-- The node after aliases are followed. -/
def target (source : YamlNode) : Option Node :=
  source.node.map (follow source.document)

/-- A node one collection further in. -/
def inner (source : YamlNode) (depth : Nat) (node : Node) : Read YamlNode :=
  .ok ⟨source.document, depth, some node⟩

/-- Read inside a collection, unless it is nested too deeply. -/
def deeper {α : Type} (source : YamlNode) (read : Nat → Read α) : Read α :=
  match source.depth with
  | 0 => unfit .tooDeep
  | depth + 1 => read depth

/-- Whether a node is an empty plain scalar, which may stand for an empty collection. -/
def isEmptyScalar : Node → Bool
  | .scalar _ _ style text => style = .plain && text.isEmpty
  | _ => false

def textOf (expected : String) (document : Document) (node : Node) : Read String :=
  match follow document node with
  | .scalar _ _ _ text => .ok text
  | node => wrongKind expected node

def asText (source : YamlNode) : Read String :=
  match source.node with
  | some node => textOf "a string" source.document node
  | none => unfit (.type .nothing "a string")

/-- Whether a scalar may be read as a value of a known type: if it is plain, or a
literal with that tag. -/
def mayBe (known : KnownTag) (tag : Option String) (style : ScalarStyle) : Bool :=
  style = .plain || (style = .literal && tag.bind knownTag? = some known)

def asBool (source : YamlNode) : Read Bool :=
  match target source with
  | some (.scalar anchor tag style text) =>
      match (Plain.bool? text).filter fun _ => mayBe .bool tag style with
      | some value => .ok value
      | none => wrongKind "a boolean" (.scalar anchor tag style text)
  | some node => wrongKind "a boolean" node
  | none => unfit (.type .nothing "a boolean")

def asInt (source : YamlNode) : Read Int64 :=
  match target source with
  | some (.scalar anchor tag style text) =>
      match (Plain.int64? text.toList).filter fun _ => mayBe .int tag style with
      | some value => .ok value
      | none => wrongKind "i64" (.scalar anchor tag style text)
  | some node => wrongKind "i64" node
  | none => unfit (.type .nothing "i64")

/-- Whether a plain scalar stands for nothing. With a tag it does so only if the tag
says so. -/
def isAbsent (tag : Option String) (text : String) : Read Bool :=
  match tag with
  | none => .ok (text.isEmpty || Plain.isNothing text)
  | some name =>
      if knownTag? name = some .null then
        if Plain.isNothing text then .ok true else unfit (.value (.text text) "null")
      else .ok false

def asOptional (source : YamlNode) : Read (Option YamlNode) := do
  match target source with
  | some (.scalar anchor tag style text) =>
      let absent ← if style = .plain then isAbsent tag text else pure false
      return if absent then none
        else some { source with node := some (.scalar anchor tag style text) }
  | some node => return some { source with node := some node }
  | none => return none

def asItems (source : YamlNode) : Read (List (Read YamlNode)) :=
  match target source with
  | some (.sequence _ _ items) =>
      deeper source fun depth => .ok (items.map (inner source depth))
  | some node => if isEmptyScalar node then .ok [] else wrongKind "a sequence" node
  | none => .ok []

/-- The entries of a mapping whose keys are texts. -/
def textEntries (source : YamlNode) (expectedKey : String)
    (entries : List (Node × Node)) (depth : Nat) : List (Read String × Read YamlNode) :=
  entries.map fun (key, value) =>
    (textOf expectedKey source.document key, inner source depth value)

/-- The entries of a collection that is wanted as a mapping. -/
def mappingEntries (source : YamlNode) (expected expectedKey : String) :
    Read (List (Read String × Read YamlNode)) :=
  match target source with
  | some (.mapping _ _ entries) =>
      deeper source fun depth => .ok (textEntries source expectedKey entries depth)
  | some node => if isEmptyScalar node then .ok [] else wrongKind expected node
  | none => .ok []

def asEntries (source : YamlNode) : Read (List (Read String × Read YamlNode)) :=
  mappingEntries source "a map" "a string"

def asShape (record : String) (source : YamlNode) : Read (Shape YamlNode) := do
  let entries ← mappingEntries source ("struct " ++ record) "field identifier"
  return .fields (entries.map fun (key, value) => (key.map .name, value))

/-- Check that nothing is given with a variant that a tag names. -/
def asNothing : Node → Read Unit
  | .scalar anchor tag style text =>
      if style = .plain && (text.isEmpty || Plain.isNothing text) then .ok ()
      else wrongKind "unit" (.scalar anchor tag style text)
  | node => wrongKind "unit" node

/-- The tag of a node. -/
def tagOf : Node → Option String
  | .scalar _ tag _ _ | .sequence _ tag _ | .mapping _ tag _ => tag
  | .alias _ => none

/-- A variant is named by a local tag, or by the text of a scalar. -/
def asVariant (variants : List String) (source : YamlNode) : Read Nat :=
  match target source with
  | none => unfit (.type .nothing "variant identifier")
  | some node =>
      match localTag? (tagOf node), node with
      | some name, _ => do
          let position ← variantNamed variants name
          within (.key name) (asNothing node)
          return position
      | none, .scalar _ _ _ text => variantNamed variants text
      | none, node => wrongKind "a YAML tag starting with '!'" node

/-! ## Data read whole -/

/-- The whole of a scalar. -/
def scalarContent (tag : Option String) (style : ScalarStyle) (text : String) :
    Read Content := do
  if (localTag? tag).isSome then unfit .taggedValue
  match ← scalarFound tag style text with
  | .nothing => return .nothing
  | .bool value => return .bool value
  | .int value => return if 0 ≤ value then .natural value.toNat else .negative value
  | .wideInt value => unfit (.type (.wideInt value) "any value")
  | .text value => return .text value
  | _ => return .float

/-- The path segment for a key that was read whole. -/
def contentSegment : Content → Segment
  | .bool value => .key (if value then "true" else "false")
  | .natural value => .key (toString value)
  | .negative value => .key (toString value)
  | .text value => .key value
  | _ => .unknown

/-- Reading data whole counts the aliases that are followed, since aliases may multiply
data without end. -/
abbrev Counted := StateT Nat (Except ReadError)

/-- Read something one step further into the document. -/
def withinCounted {α : Type} (segment : Segment) (read : Counted α) : Counted α :=
  fun left => within segment (read left)

/-- Follow an alias, if any more may be followed. -/
def spendAlias : Counted Unit := fun left =>
  match left with
  | 0 => unfit .tooManyAliases
  | left + 1 => .ok ((), left)

mutual
/-- The whole of a node. At most `depth` collections may be nested. The first argument
bounds the number of steps into nodes and aliases. -/
def nodeContent (steps depth : Nat) (document : Document) (node : Node) :
    Counted Content :=
  match steps with
  | 0 => fun _ => unfit .tooDeep
  | steps + 1 =>
      match node with
      | .scalar _ tag style text =>
          fun left => do return (← scalarContent tag style text, left)
      | .alias anchor => do
          spendAlias
          match document.target? anchor with
          | some node => nodeContent steps depth document node
          | none => return .nothing
      | .sequence _ tag items =>
          if (localTag? tag).isSome then fun _ => unfit .taggedValue
          else
            match depth with
            | 0 => fun _ => unfit .tooDeep
            | depth + 1 =>
                do return .sequence (← itemContents steps depth document 0 items)
      | .mapping _ tag entries =>
          if (localTag? tag).isSome then fun _ => unfit .taggedValue
          else
            match depth with
            | 0 => fun _ => unfit .tooDeep
            | depth + 1 => do return .map (← entryContents steps depth document entries)

/-- The whole of the items of a sequence from a position on. -/
def itemContents (steps depth : Nat) (document : Document) (position : Nat)
    (items : List Node) :
    Counted (List Content) :=
  match items with
  | [] => return []
  | item :: rest => do
      let content ← withinCounted (.index position)
          (nodeContent steps depth document item)
      return content :: (← itemContents steps depth document (position + 1) rest)

/-- The whole of the entries of a mapping. -/
def entryContents (steps depth : Nat) (document : Document)
    (entries : List (Node × Node)) :
    Counted (List (Content × Content)) :=
  match entries with
  | [] => return []
  | (key, value) :: rest => do
      let key ← withinCounted .unknown (nodeContent steps depth document key)
      let value ← withinCounted (contentSegment key)
          (nodeContent steps depth document value)
      return (key, value) :: (← entryContents steps depth document rest)
end

/-- How many collections may be nested in a document. -/
def nestingLimit : Nat := 128

/-- How many aliases may be followed for each event of a document. -/
def aliasLimit : Nat := 100

def asContent (source : YamlNode) : Read Content :=
  match source.node with
  | none => .ok .nothing
  | some node => do
      let limit := aliasLimit * source.document.root.eventCount
      let (content, _) ← nodeContent (2 * nestingLimit + 2) source.depth source.document
          node limit
      return content

instance : Source YamlNode where
  text := asText
  bool := asBool
  int := asInt
  optional := asOptional
  items := asItems
  entries := asEntries
  shape := asShape
  variant := asVariant
  content := asContent
  skip _ := .ok ()

end FromYaml

/-- The root of a document, or the empty node where there is no document. -/
def YamlNode.ofDocument : Option Document → YamlNode
  | some document => ⟨document, FromYaml.nestingLimit, some document.root⟩
  | none => ⟨⟨.alias 0, []⟩, FromYaml.nestingLimit, none⟩

end GodotSdk.Schema
