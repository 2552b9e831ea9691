import PgWrite.Yaml.Data
import PgWrite.Yaml.Node

/-!
# Documents

The node of a document is built into data. A merge key puts the entries of other mappings in
front of those of its own mapping, so its own entries win; of two entries with the same key
the later one wins, and of the members of a set each stands once. Keys are scalars.

Faults are found level by level. The scalars of a collection are looked at when it is its
turn, and the collections in it get their turn after all that are waiting; a collection that
is referred to several times has one turn. The data of a document that passed are only built
as deep as they are looked at.
-/

namespace PgWrite.Yaml

namespace Node

/-- What a node stands for. -/
def kind : Node → NodeKind
  | .scalar kind _ => kind
  | .sequence _ kind _ => kind
  | .mapping _ kind _ => kind
  | .enclosing _ => .unknown

/-- The text of a scalar; a mapping with a default has the text of that. -/
def scalarText : Nat → Node → Except YamlFault (List Char)
  | 0, _ => .error .malformed
  | fuel + 1, node => match node with
    | .scalar _ text => .ok text
    | .mapping _ _ entries => match entries.find? fun (key, _) => key.kind = .default with
      | some (_, value) => scalarText fuel value
      | none => .error .malformed
    | .enclosing true => .error .tooDeep
    | _ => .error .malformed

/-- The data of a node that stands for a scalar. -/
def scalarData (fuel : Nat) (node : Node) : Except YamlFault Data := do
  let text ← node.scalarText fuel
  match node.kind, node with
  | .date, .mapping _ _ _ => throw .wrongNode
  | kind, _ => Data.ofScalar kind text

mutual

/-- The entries of a mapping with those of merged mappings in front. -/
def mergedEntries : Nat → List (Node × Node) → Except YamlFault (List (Node × Node))
  | 0, _ => .error .malformed
  | fuel + 1, entries => do
    let merged ← entries.mapM fun (key, value) =>
      if key.kind = .merge then entriesToMerge fuel value else .ok []
    let own := entries.filter fun (key, _) => key.kind ≠ .merge
    return merged.flatten ++ own

/-- The entries that a merge key brings in; of several mappings the first one wins. -/
def entriesToMerge : Nat → Node → Except YamlFault (List (Node × Node))
  | 0, _ => .error .malformed
  | fuel + 1, value => match value with
    | .mapping _ _ entries => mergedEntries fuel entries
    | .enclosing true => .ok []
    | .sequence _ _ items => do
      let parts ← items.mapM fun item => match item with
        | .mapping _ _ entries => mergedEntries fuel entries
        | .enclosing true => .ok []
        | _ => .error .malformed
      return parts.reverse.flatten
    | _ => .error .malformed

end

/-- The pair of a list of pairs: a mapping with a single entry. -/
def singleEntry : Node → Except YamlFault (Node × Node)
  | .mapping _ _ [entry] => .ok entry
  | _ => .error .malformed

/-- A node stands for a collection. -/
def isCollection (node : Node) : Bool :=
  match node with
  | .enclosing _ => true
  | _ => [.sequence, .mapping, .set, .orderedMapping, .pairs].contains node.kind

end Node

/-- Collections that wait for their turn, and the numbers of all that have waited. -/
structure Waiting where
  nodes : List Node
  numbers : List Nat

namespace Waiting

/-- A collection has waited; one that contains the node at hand always has. -/
def hasMet (w : Waiting) : Node → Bool
  | .enclosing _ => true
  | .sequence number _ _ => w.numbers.contains number
  | .mapping number _ _ => w.numbers.contains number
  | .scalar _ _ => false

/-- Puts a collection behind all that are waiting. -/
def push (w : Waiting) (node : Node) : Waiting where
  nodes := w.nodes ++ [node]
  numbers := match node with
    | .sequence number _ _ => number :: w.numbers
    | .mapping number _ _ => number :: w.numbers
    | _ => w.numbers

/-- Looks at a node: a scalar has its data checked, a collection waits unless it has waited. -/
def visit (fuel : Nat) (w : Waiting) (node : Node) : Except YamlFault Waiting := do
  if node.isCollection then return if w.hasMet node then w else w.push node
  let _ ← node.scalarData fuel
  return w

/-- Looks at a key, which must not be a collection; a default key is a text here. -/
def visitKey (fuel : Nat) (w : Waiting) (key : Node) : Except YamlFault Waiting :=
  match key with
  | .scalar .default _ => .ok w
  | _ => if key.isCollection then .error .malformed else w.visit fuel key

/-- Looks at the entries of a mapping. -/
def visitEntries (fuel : Nat) (w : Waiting) (entries : List (Node × Node)) :
    Except YamlFault Waiting := do
  (← Node.mergedEntries fuel entries).foldlM
    (fun w (key, value) => do (← w.visitKey fuel key).visit fuel value) w

/-- Looks at what is in a collection. -/
def visitInside (fuel : Nat) (w : Waiting) (node : Node) : Except YamlFault Waiting :=
  match node.kind, node with
  | .sequence, .sequence _ _ items => items.foldlM (fun w item => w.visit fuel item) w
  | .mapping, .mapping _ _ entries => w.visitEntries fuel entries
  | .set, .mapping _ _ entries => w.visitEntries fuel entries
  | .orderedMapping, .sequence _ _ items => visitPairs items
  | .pairs, .sequence _ _ items => visitPairs items
  | _, _ => .error .malformed
where
  /-- Looks at a list of pairs. -/
  visitPairs (items : List Node) : Except YamlFault Waiting :=
    items.foldlM (fun w item => do
      let (key, value) ← item.singleEntry
      (← w.visit fuel key).visit fuel value) w

/-- Gives every waiting collection its turn. -/
def run (fuel : Nat) : Nat → Waiting → Except YamlFault Unit
  | 0, _ => .error .malformed
  | turns + 1, w => match w.nodes with
    | [] => .ok ()
    | node :: nodes => do run fuel turns (← visitInside fuel { w with nodes } node)

end Waiting

/-- Checks a document; `fuel` bounds the number of its nodes. -/
def Node.check (fuel : Nat) (node : Node) : Except YamlFault Unit := do
  let w ← Waiting.visit fuel ⟨[], []⟩ node
  w.run fuel fuel

/-- Sets the value of a key. -/
def Data.setEntry (key value : Data) : List (Data × Data) → List (Data × Data)
  | [] => [(key, value)]
  | (k, v) :: rest =>
    if k.same key then (k, value) :: rest else (k, v) :: setEntry key value rest

/-- Builds the data of a node down to a depth. -/
def Node.build (fuel : Nat) : Nat → Node → Except YamlFault Data
  | 0, node =>
    if node.isCollection then .ok .collection else node.scalarData fuel
  | depth + 1, node =>
    match node.kind, node with
    | .sequence, .sequence _ _ items => do return .list (← items.mapM (build fuel depth))
    | .mapping, .mapping _ _ entries => do return .map (← entriesData depth entries)
    | .set, .mapping _ _ entries => do
      return .list ((← entriesData depth entries).map (·.1))
    | .orderedMapping, .sequence _ _ items => .ok (.list (items.map fun _ => .collection))
    | .pairs, .sequence _ _ items => .ok (.list (items.map fun _ => .collection))
    | _, .enclosing _ => .ok .collection
    | _, _ => node.scalarData fuel
where
  /-- The entries of a mapping as data. -/
  entriesData (depth : Nat) (entries : List (Node × Node)) :
      Except YamlFault (List (Data × Data)) := do
    let built ← (← Node.mergedEntries fuel entries).mapM fun (key, value) => do
      let key ← match key with
        | .scalar .default text => pure (Data.text (String.ofList text))
        | _ => key.scalarData fuel
      return (key, ← build fuel depth value)
    return built.foldl (fun entries (key, value) => Data.setEntry key value entries) []

/-- The data of a text, down to the items of the lists in a mapping; a text without a document
holds nothing. -/
def Data.ofText (text : List Char) : Except YamlFault Data := do
  match ← Node.ofText text with
  | some node => do
    let fuel := 8 * text.length + 64
    node.check fuel
    node.build fuel 2
  | none => return .null

end PgWrite.Yaml
