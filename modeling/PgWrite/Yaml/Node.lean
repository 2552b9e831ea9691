import PgWrite.Yaml.ScalarKind
import PgWrite.Yaml.TokenStream

/-!
# Nodes of a YAML text

The tokens of a text form one node. A reference stands for the node with its anchor; a node
that contains itself by way of its anchor is recorded as enclosing. Collections are numbered,
so that a collection is known again where it is referred to. A node that is left out is an
empty scalar. A text holds at most one document, whose collections must not lie too deep in
one another.
-/

namespace PgWrite.Yaml

/-- A node, with what it stands for. -/
inductive Node where
  | scalar (kind : NodeKind) (text : List Char)
  | sequence (number : Nat) (kind : NodeKind) (items : List Node)
  | mapping (number : Nat) (kind : NodeKind) (entries : List (Node × Node))
  /-- A node that contains this one. -/
  | enclosing (isMapping : Bool)
  deriving Inhabited

/-- What is kept while nodes are read. -/
structure Composition where
  tokens : List Token
  /-- The fault with which the tokens break off. -/
  fault : YamlFault
  /-- What the handles of tags stand for. -/
  handles : List (List Char × List Char)
  anchors : List (List Char × Node)
  /-- How many collections have been opened. -/
  opened : Nat
  /-- How many collections are open. -/
  depth : Nat

/-- How many collections may be open. -/
def maxDepth : Nat := 485

/-- Reading nodes. -/
abbrev Compose := StateT Composition (Except YamlFault)

namespace Compose

/-- The next token. -/
def peek : Compose Token := do
  let s ← get
  match s.tokens with
  | t :: _ => return t
  | [] => throw s.fault

/-- Goes behind the next token. -/
def skip : Compose Unit :=
  modify fun s => { s with tokens := s.tokens.drop 1 }

/-- Goes behind the next token, if it is the given one. -/
def skipIf (t : Token) : Compose Bool := do
  if (← peek) = t then
    skip
    return true
  return false

/-- The next token is one of those given. -/
def atAny (ts : List Token) : Compose Bool := do
  return ts.contains (← peek)

/-- Goes behind the next token, which must be the given one. -/
def require (t : Token) : Compose Unit := do
  if !(← skipIf t) then throw .malformed

/-- Reads a collection, which gets a number of its own. -/
def collection {α : Type} (inside : Nat → Compose α) : Compose α := do
  let s ← get
  if maxDepth ≤ s.depth then throw .tooDeep
  set { s with opened := s.opened + 1, depth := s.depth + 1 }
  let node ← inside s.opened
  modify fun after => { after with depth := s.depth }
  return node

end Compose

open Compose

/-- The start of the tags that every text may use. -/
def commonTag : List Char :=
  "tag:yaml.org,2002:".toList

/-- The kinds by the names of their tags. -/
def taggedKinds : List (String × NodeKind) :=
  [("null", .null), ("bool", .bool), ("int", .int), ("float", .float), ("timestamp", .date),
    ("merge", .merge), ("value", .default), ("str", .text), ("binary", .octets),
    ("seq", .sequence), ("map", .mapping), ("omap", .orderedMapping), ("pairs", .pairs),
    ("set", .set)]

/-- What a tag says that its node stands for. -/
def kindOfTag (tag : List Char) : NodeKind :=
  match Text.dropStart? commonTag tag with
  | some name => (taggedKinds.lookup (String.ofList name)).getD .unknown
  | none => .unknown

/-- The properties of a node. -/
structure Properties where
  anchor : Option (List Char)
  /-- A tag in full, or a single mark for none in particular. -/
  tag : Option (List Char)

namespace Properties

/-- The tag in full, if it says what the node stands for. -/
def kind? (p : Properties) : Option NodeKind :=
  match p.tag with
  | some tag => if tag = ['!'] then none else some (kindOfTag tag)
  | none => none

/-- The node has a property. -/
def any (p : Properties) : Bool :=
  p.anchor.isSome || p.tag.isSome

/-- What a scalar with these properties stands for. -/
def scalarKind (p : Properties) (text : List Char) (style : ScalarStyle) : NodeKind :=
  match p.kind?, p.tag, style with
  | some kind, _, _ => kind
  | none, some _, _ => plainKind text
  | none, none, .plain => plainKind text
  | none, none, .quoted => .text

end Properties

/-- A tag in full. -/
def fullTag (handle : Option (List Char)) (suffix : List Char) : Compose (List Char) := do
  match handle with
  | none => return suffix
  | some handle => match (← get).handles.lookup handle with
    | some start => return start ++ suffix
    | none => throw .malformed

/-- Reads an anchor, if one stands here. -/
def readAnchor? : Compose (Option (List Char)) := do
  match ← peek with
  | .anchor name => do
    skip
    return some name
  | _ => return none

/-- Reads a tag, if one stands here. -/
def readTag? : Compose (Option (Option (List Char) × List Char)) := do
  match ← peek with
  | .tag handle suffix => do
    skip
    return some (handle, suffix)
  | _ => return none

/-- Reads the properties of a node, which may come in either order. -/
def readProperties : Compose Properties := do
  let anchor ← readAnchor?
  let tag ← readTag?
  let anchor ← if anchor.isNone && tag.isSome then readAnchor? else pure anchor
  match tag with
  | none => return { anchor, tag := none }
  | some (handle, suffix) => return { anchor, tag := some (← fullTag handle suffix) }

/-- A name must not be used for two anchors. -/
def refuseRepeated (p : Properties) : Compose Unit := do
  match p.anchor with
  | some name => if ((← get).anchors.lookup name).isSome then throw .malformed
  | none => return

/-- Keeps the node of an anchor; the last word on a name counts. -/
def keep (p : Properties) (node : Node) : Compose Unit := do
  match p.anchor with
  | some name => modify fun s => { s with anchors := (name, node) :: s.anchors }
  | none => return

/-- A node that is left out. -/
def emptyNode : Node :=
  .scalar .null []

/-- Which nodes may stand at a place. -/
inductive NodePlace where
  | flow
  | block
  /-- A block in which the items of a sequence may stand without indentation. -/
  | entry
  deriving DecidableEq

mutual

/-- Reads a node. -/
def readNode : Nat → NodePlace → Compose Node
  | 0, _ => throw .malformed
  | fuel + 1, place => do
    match ← peek with
    | .alias name => do
      skip
      match (← get).anchors.lookup name with
      | some node => return node
      | none => throw .malformed
    | _ => do
      let p ← readProperties
      match ← peek with
      | .scalar text style => do
        skip
        refuseRepeated p
        let node := Node.scalar (p.scalarKind text style) text
        keep p node
        return node
      | .flowSequenceStart => readSequence p (readFlowItems fuel true)
      | .flowMappingStart => readMapping p (readFlowEntries fuel true)
      | .blockSequenceStart =>
        if place = .flow then readAbsent p else readSequence p (readBlockItems fuel)
      | .blockMappingStart =>
        if place = .flow then readAbsent p else readMapping p (readBlockEntries fuel)
      | .blockEntry =>
        if place = .entry then do
          refuseRepeated p
          collection fun number => do
            keep p (.enclosing false)
            let node := Node.sequence number (p.kind?.getD .sequence) (← readPlainItems fuel)
            keep p node
            return node
        else readAbsent p
      | _ => readAbsent p
where
  /-- A node of which only properties stand here. -/
  readAbsent (p : Properties) : Compose Node := do
    if !p.any then throw .malformed
    refuseRepeated p
    let node := Node.scalar (p.scalarKind [] .plain) []
    keep p node
    return node
  /-- Reads a sequence behind its opening. -/
  readSequence (p : Properties) (items : Compose (List Node)) : Compose Node := do
    refuseRepeated p
    collection fun number => do
      keep p (.enclosing false)
      skip
      let node := Node.sequence number (p.kind?.getD .sequence) (← items)
      keep p node
      return node
  /-- Reads a mapping behind its opening. -/
  readMapping (p : Properties) (entries : Compose (List (Node × Node))) : Compose Node := do
    refuseRepeated p
    collection fun number => do
      keep p (.enclosing true)
      skip
      let node := Node.mapping number (p.kind?.getD .mapping) (← entries)
      keep p node
      return node

/-- Reads a node, unless one of some tokens shows that it is left out. -/
def readOptional : Nat → NodePlace → List Token → Compose Node
  | 0, _, _ => throw .malformed
  | fuel + 1, place, ends => do
    if ← atAny ends then return emptyNode
    readNode fuel place

/-- Reads the items of a block sequence up to its end. -/
def readBlockItems : Nat → Compose (List Node)
  | 0 => throw .malformed
  | fuel + 1 => do
    if ← skipIf .blockEntry then
      let item ← readOptional fuel .block [.blockEntry, .blockEnd]
      return item :: (← readBlockItems fuel)
    require .blockEnd
    return []

/-- Reads the items of a sequence that is not indented. -/
def readPlainItems : Nat → Compose (List Node)
  | 0 => throw .malformed
  | fuel + 1 => do
    if ← skipIf .blockEntry then
      let item ← readOptional fuel .block [.blockEntry, .key, .value, .blockEnd]
      return item :: (← readPlainItems fuel)
    return []

/-- Reads the entries of a block mapping up to its end. -/
def readBlockEntries : Nat → Compose (List (Node × Node))
  | 0 => throw .malformed
  | fuel + 1 => do
    if ← skipIf .key then
      let key ← readOptional fuel .entry [.key, .value, .blockEnd]
      let value ← if ← skipIf .value then readOptional fuel .entry [.key, .value, .blockEnd]
        else pure emptyNode
      return (key, value) :: (← readBlockEntries fuel)
    require .blockEnd
    return []

/-- Reads the items of a flow sequence up to its end. -/
def readFlowItems : Nat → Bool → Compose (List Node)
  | 0, _ => throw .malformed
  | fuel + 1, first => do
    if ← skipIf .flowSequenceEnd then return []
    if !first then require .flowEntry
    if ← skipIf .key then
      let pair ← collection fun number => do
        let key ← readOptional fuel .flow [.value, .flowEntry, .flowSequenceEnd]
        let value ← if ← skipIf .value then readOptional fuel .flow [.flowEntry, .flowSequenceEnd]
          else pure emptyNode
        return Node.mapping number .mapping [(key, value)]
      return pair :: (← readFlowItems fuel false)
    if ← skipIf .flowSequenceEnd then return []
    let item ← readNode fuel .flow
    return item :: (← readFlowItems fuel false)

/-- Reads the entries of a flow mapping up to its end. -/
def readFlowEntries : Nat → Bool → Compose (List (Node × Node))
  | 0, _ => throw .malformed
  | fuel + 1, first => do
    if ← skipIf .flowMappingEnd then return []
    if !first then require .flowEntry
    if ← skipIf .key then
      let key ← readOptional fuel .flow [.value, .flowEntry, .flowMappingEnd]
      let value ← if ← skipIf .value then readOptional fuel .flow [.flowEntry, .flowMappingEnd]
        else pure emptyNode
      return (key, value) :: (← readFlowEntries fuel false)
    if ← skipIf .flowMappingEnd then return []
    let key ← readNode fuel .flow
    return (key, emptyNode) :: (← readFlowEntries fuel false)

end

/-- The handles that every text may use. -/
def commonHandles : List (List Char × List Char) :=
  [(['!'], ['!']), (['!', '!'], commonTag)]

/-- Reads the directives in front of a document: at most one version, which must be 1, and
at most one meaning for a handle. -/
def readDirectives (versioned : Bool) (given : List (List Char × List Char)) :
    List Token → Except YamlFault (List (List Char × List Char) × List Token)
  | .directive d :: rest =>
    match d with
    | .yaml major _ =>
      if versioned || major ≠ 1 then .error .malformed else readDirectives true given rest
    | .tag handle start =>
      if (given.lookup handle).isSome then .error .malformed
      else readDirectives versioned ((handle, start) :: given) rest
    | .reserved => readDirectives versioned given rest
  | rest => .ok (given ++ commonHandles, rest)

/-- Reads what stands in front of a document, and whether the document may be empty. -/
def readOpening : Compose Bool := do
  match ← peek with
  | .directive _ | .documentStart => do
    let s ← get
    let (handles, tokens) ← readDirectives false [] s.tokens
    set { s with handles, tokens }
    require .documentStart
    return true
  | _ => return false

/-- Goes behind the marks that end a document. -/
def skipDocumentEnds : Nat → Compose Unit
  | 0 => return
  | turns + 1 => do
    if ← skipIf .documentEnd then skipDocumentEnds turns

/-- Reads the only document of a text, if it has one. -/
def readDocument : Compose (Option Node) := do
  if ← atAny [.streamEnd] then return none
  let fuel := 4 * (← get).tokens.length + 8
  let maybeEmpty ← readOpening
  let isEmpty ← match ← peek with
    | .directive _ | .documentStart | .documentEnd | .streamEnd => pure maybeEmpty
    | _ => pure false
  let node ← if isEmpty then pure emptyNode else readNode fuel .block
  skipDocumentEnds fuel
  require .streamEnd
  return some node

/-- The node of a text, if it holds one. -/
def Node.ofText (text : List Char) : Except YamlFault (Option Node) :=
  let stream := TokenStream.ofText text
  readDocument.run' {
    tokens := stream.tokens, fault := stream.fault, handles := commonHandles, anchors := []
    opened := 0, depth := 0 }

end PgWrite.Yaml
