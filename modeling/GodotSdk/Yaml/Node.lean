import GodotSdk.Yaml.Token

/-!
# YAML nodes

A document is a tree of nodes. Anchors and aliases are numbered, and an alias stands for
the last node in the document whose anchor has its number.
-/

namespace GodotSdk.Yaml

/-- A node with its anchor and its tag, if it has them. -/
inductive Node
  | scalar (anchor : Option Nat) (tag : Option String) (style : ScalarStyle)
      (text : String)
  | sequence (anchor : Option Nat) (tag : Option String) (items : List Node)
  | mapping (anchor : Option Nat) (tag : Option String) (entries : List (Node × Node))
  | alias (anchor : Nat)

/-- What is known while nodes are read from tokens: what handles stand for, and the
numbers of the anchors so far. -/
structure NodeState where
  handles : List (String × String)
  anchors : List (String × Nat)
  tokens : List Token

/-- A step of reading nodes, which fails if the tokens make no node. -/
abbrev NodeReader := StateT NodeState Option

namespace NodeReader

def peek? : NodeReader (Option Token) := do
  return (← get).tokens.head?

def skip : NodeReader Unit :=
  modify fun state => { state with tokens := state.tokens.tail }

/-- Whether one of the given tokens comes next, or none at all. -/
def atOneOf (tokens : List Token) : NodeReader Bool := do
  return (← peek?).all tokens.contains

/-- Go past a token, if it comes next. -/
def accept (token : Token) : NodeReader Bool := do
  let found := (← peek?) == some token
  if found then skip
  return found

/-- Number an anchor. Its number is how many different anchors came before it. -/
def number (name : String) : NodeReader Nat := do
  let state ← get
  let anchor := state.anchors.length
  set { state with
    anchors :=
      if state.anchors.any (·.1 == name) then
        state.anchors.map fun (entry : String × Nat) => if entry.1 == name then
          (name, anchor) else entry
      else state.anchors ++ [(name, anchor)] }
  return anchor

/-- The number of the anchor that an alias names. -/
def numberOf (name : String) : NodeReader Nat := do
  match (← get).anchors.lookup name with
  | some anchor => return anchor
  | none => failure

/-- The tag that a name stands for. -/
def resolve (name : TagName) : NodeReader String := do
  if name.handle.isEmpty then return name.suffix
  match (← get).handles.lookup name.handle with
  | some start => return start ++ name.suffix
  | none => failure

/-- An anchor and a tag before a node, in either order. -/
structure Properties where
  anchor : Option Nat
  tag : Option String

/-- Read an anchor, if one comes next. -/
def readAnchor : NodeReader (Option Nat) := do
  match ← peek? with
  | some (.anchor name) =>
      skip
      return some (← number name)
  | _ => return none

/-- Read a tag, if one comes next. -/
def readTag : NodeReader (Option String) := do
  match ← peek? with
  | some (.tag name) =>
      skip
      return some (← resolve name)
  | _ => return none

def readProperties : NodeReader Properties := do
  match ← readAnchor with
  | some anchor => return ⟨some anchor, ← readTag⟩
  | none =>
      let tag ← readTag
      return ⟨← readAnchor, tag⟩

/-- A scalar that is not written. -/
def emptyScalar (properties : Properties) : Node :=
  .scalar properties.anchor properties.tag .plain ""

/-- A node that is not written at all. -/
def absent : Node :=
  .scalar none none .plain ""

/-- Tokens that cannot begin an entry of a block sequence. -/
def afterBlockEntry : List Token := [.blockEntry, .blockEnd]

/-- Tokens that cannot begin an entry of a sequence that is not indented. -/
def afterPlainEntry : List Token := [.blockEntry, .key, .value, .blockEnd]

/-- Tokens that cannot begin a key or value of a block mapping. -/
def afterBlockPair : List Token := [.key, .value, .blockEnd]

/-- Tokens that cannot begin a key in a flow sequence. -/
def afterPairKey : List Token := [.value, .flowEntry, .flowSequenceEnd]

/-- Tokens that cannot begin a value in a flow sequence. -/
def afterPairValue : List Token := [.flowEntry, .flowSequenceEnd]

/-- Tokens that cannot begin a key in a flow mapping. -/
def afterFlowKey : List Token := [.value, .flowEntry, .flowMappingEnd]

/-- Tokens that cannot begin a value in a flow mapping. -/
def afterFlowValue : List Token := [.flowEntry, .flowMappingEnd]

/-- A node of which only the properties are written. -/
def ofProperties (properties : Properties) : NodeReader Node := do
  if properties.anchor.isNone && properties.tag.isNone then failure
  return emptyScalar properties

mutual
/-- Read a node. Block collections are allowed in blocks only, and a sequence that is
not indented only as a key or value of a block mapping. The first argument bounds the
number of steps. -/
def readNode (steps : Nat) (inBlock inMapping : Bool) : NodeReader Node :=
  match steps with
  | 0 => failure
  | steps + 1 => do
      if let some (.alias name) ← peek? then
        skip
        return .alias (← numberOf name)
      let properties ← readProperties
      match ← peek? with
      | some .blockEntry =>
          if inMapping then
            return .sequence properties.anchor properties.tag (← readPlainEntries steps)
          else ofProperties properties
      | some (.scalar style text) =>
          skip
          return .scalar properties.anchor properties.tag style text
      | some .flowSequenceStart =>
          skip
          return .sequence properties.anchor properties.tag (← readFlowItems steps true)
      | some .flowMappingStart =>
          skip
          return .mapping properties.anchor properties.tag (← readFlowPairs steps true)
      | some .blockSequenceStart =>
          if !inBlock then return ← ofProperties properties
          skip
          return .sequence properties.anchor properties.tag (← readBlockEntries steps)
      | some .blockMappingStart =>
          if !inBlock then return ← ofProperties properties
          skip
          return .mapping properties.anchor properties.tag (← readBlockPairs steps)
      | _ => ofProperties properties

/-- Read the entries of an indented block sequence and its end. -/
def readBlockEntries (steps : Nat) : NodeReader (List Node) :=
  match steps with
  | 0 => failure
  | steps + 1 => do
      if ← accept .blockEnd then return []
      unless ← accept .blockEntry do failure
      let item ← if ← atOneOf afterBlockEntry then pure absent
          else readNode steps true false
      return item :: (← readBlockEntries steps)

/-- Read the entries of a block sequence that is not indented. -/
def readPlainEntries (steps : Nat) : NodeReader (List Node) :=
  match steps with
  | 0 => failure
  | steps + 1 => do
      if ← accept .blockEntry then
        let item ← if ← atOneOf afterPlainEntry then pure absent
            else readNode steps true false
        return item :: (← readPlainEntries steps)
      else return []

/-- Read the pairs of a block mapping and its end. -/
def readBlockPairs (steps : Nat) : NodeReader (List (Node × Node)) :=
  match steps with
  | 0 => failure
  | steps + 1 => do
      if ← accept .blockEnd then return []
      unless ← accept .key do failure
      let key ← if ← atOneOf afterBlockPair then pure absent
          else readNode steps true true
      let value ← readBlockValue steps
      return (key, value) :: (← readBlockPairs steps)

/-- Read the value of a pair in a block mapping. -/
def readBlockValue (steps : Nat) : NodeReader Node :=
  match steps with
  | 0 => failure
  | steps + 1 => do
      if ← accept .value then
        if ← atOneOf afterBlockPair then return absent
        readNode steps true true
      else return absent

/-- Read the items of a flow sequence and its end. An item may be a single pair. -/
def readFlowItems (steps : Nat) (first : Bool) : NodeReader (List Node) :=
  match steps with
  | 0 => failure
  | steps + 1 => do
      if ← accept .flowSequenceEnd then return []
      unless first do
        unless ← accept .flowEntry do failure
      if ← accept .key then
        let pair ← readPair steps
        return pair :: (← readFlowItems steps false)
      else if ← accept .flowSequenceEnd then return []
      else
        let item ← readNode steps false false
        return item :: (← readFlowItems steps false)

/-- Read a single pair in a flow sequence. Where the key is absent, the token in its
place is passed over. -/
def readPair (steps : Nat) : NodeReader Node :=
  match steps with
  | 0 => failure
  | steps + 1 => do
      let key ← if ← atOneOf afterPairKey then
          skip
          pure absent
        else readNode steps false false
      let value ← if ← accept .value then
          if ← atOneOf afterPairValue then pure absent else readNode steps false false
        else pure absent
      return .mapping none none [(key, value)]

/-- Read the pairs of a flow mapping and its end. -/
def readFlowPairs (steps : Nat) (first : Bool) : NodeReader (List (Node × Node)) :=
  match steps with
  | 0 => failure
  | steps + 1 => do
      if ← accept .flowMappingEnd then return []
      unless first do
        unless ← accept .flowEntry do failure
      if ← accept .key then
        let key ← if ← atOneOf afterFlowKey then pure absent
            else readNode steps false false
        let value ← if ← accept .value then
            if ← atOneOf afterFlowValue then pure absent else readNode steps false false
          else pure absent
        return (key, value) :: (← readFlowPairs steps false)
      else if ← accept .flowMappingEnd then return []
      else
        let key ← readNode steps false false
        return (key, absent) :: (← readFlowPairs steps false)
end

/-- Handles that need no directive. -/
def standardHandles : List (String × String) :=
  [("!", "!"), ("!!", "tag:yaml.org,2002:")]

/-- Read the directives of a document. The version must be 1.1 or 1.2, and nothing may
be declared twice. -/
def readDirectives (declared : List (String × String)) (hasVersion : Bool) :
    List Token → Option (List (String × String) × List Token)
  | .directive (.version major minor) :: rest =>
      if hasVersion || major ≠ 1 || (minor ≠ 1 && minor ≠ 2) then none
      else readDirectives declared true rest
  | .directive (.handle handle start) :: rest =>
      if (declared.lookup handle).isSome then none
      else readDirectives (declared ++ [(handle, start)]) hasVersion rest
  | tokens => some (declared, tokens)

/-- Read the content of a document. -/
def readContent : NodeReader Node := do
  match ← peek? with
  | none | some .documentEnd | some .documentStart | some (.directive _) =>
      return absent
  | _ => readNode (4 * (← get).tokens.length + 4) true false

end NodeReader

/-- The number of nodes that a node consists of, and of their ends. -/
def Node.eventCount : Node → Nat
  | .scalar .. | .alias _ => 1
  | .sequence _ _ items => 2 + countItems items
  | .mapping _ _ entries => 2 + countEntries entries
where
  countItems : List Node → Nat
    | [] => 0
    | item :: rest => item.eventCount + countItems rest
  countEntries : List (Node × Node) → Nat
    | [] => 0
    | (key, value) :: rest => key.eventCount + value.eventCount + countEntries rest

/-- The nodes with anchors, each with its number, in the order of their beginnings. -/
def Node.anchored (node : Node) : List (Nat × Node) :=
  match node with
  | .scalar anchor .. => here anchor
  | .sequence anchor _ items => here anchor ++ anchoredItems items
  | .mapping anchor _ entries => here anchor ++ anchoredEntries entries
  | .alias _ => []
where
  here (anchor : Option Nat) : List (Nat × Node) :=
    match anchor with
    | some anchor => [(anchor, node)]
    | none => []
  anchoredItems : List Node → List (Nat × Node)
    | [] => []
    | item :: rest => item.anchored ++ anchoredItems rest
  anchoredEntries : List (Node × Node) → List (Nat × Node)
    | [] => []
    | (key, value) :: rest => key.anchored ++ value.anchored ++ anchoredEntries rest

/-- A document: its root, and the nodes that aliases stand for. -/
structure Document where
  root : Node
  anchored : List (Nat × Node)

/-- The node that an alias stands for. -/
def Document.target? (document : Document) (anchor : Nat) : Option Node :=
  document.anchored.reverse.lookup anchor

/-- The document of a list of tokens, which must hold no other document. There may be no
document at all. -/
def Document.ofTokens? (tokens : List Token) : Option (Option Document) := do
  if tokens.isEmpty then return none
  let (declared, rest) ← NodeReader.readDirectives [] false tokens
  let explicit := rest.head? = some .documentStart
  if !explicit && rest.length < tokens.length then none
  let state : NodeState :=
    ⟨declared ++ NodeReader.standardHandles, [], if explicit then rest.tail else rest⟩
  let (root, state) ← if explicit then NodeReader.readContent state
    else NodeReader.readNode (4 * tokens.length + 4) true false state
  if state.tokens.all (· == .documentEnd) then return some ⟨root, root.anchored⟩
  none

/-- The document of a text, if the text is well formed and holds no second one. -/
def Document.ofText? (text : String) : Option (Option Document) := do
  Document.ofTokens? (← Token.ofText? text)

end GodotSdk.Yaml
