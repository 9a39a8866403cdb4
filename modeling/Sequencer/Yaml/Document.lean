import Sequencer.Yaml.ScalarValue

/-!
# The document of a YAML text

`Yaml.read` gives the document that a text holds: an empty one, which is null, if it holds none.
The graph of the document is surveyed breadth first from its root, as far as the tags lead; the
first node that has no value, in this order, is the failure of the whole. On the way, the entries
that a mapping takes over from others under its merge keys are put in front of its own.

The value of a document is filled in node by node, from the last to the first. Nodes refer to later
nodes, aliases apart, so one pass is enough without aliases, and one more for each of them. A
collection that lies within itself has no value that ends: it is unfolded as often as there are
passes. Where the difference matters, which is in merging one document into another, the nodes are
followed instead: `Document.mergesForever`.
-/

namespace Sequencer.Yaml

/-! ## Nodes -/

/-- The node of a number. -/
def nodeAt (nodes : Array Node) (id : NodeId) : Node := nodes[id]?.getD ⟨.null, .scalar ""⟩

/-- The pairs of a mapping; none for another node. -/
def pairsOf (nodes : Array Node) (id : NodeId) : List (NodeId × NodeId) :=
  match (nodeAt nodes id).content with
  | .mapping pairs => pairs
  | _ => []

/-- The items of a sequence; none for another node. -/
def itemsOf (nodes : Array Node) (id : NodeId) : List NodeId :=
  match (nodeAt nodes id).content with
  | .sequence items => items
  | _ => []

/-- Whether a node is a mapping. -/
def isMapping (nodes : Array Node) (id : NodeId) : Bool :=
  match (nodeAt nodes id).content with
  | .mapping _ => true
  | _ => false

/-- Gives a mapping other pairs. -/
def setPairs (nodes : Array Node) (id : NodeId) (pairs : List (NodeId × NodeId)) : Array Node :=
  nodes.modify id fun node => { node with content := .mapping pairs }

/-- Whether a tag stands for values without parts. -/
def Tag.isScalar : Tag → Bool
  | null | bool | int | float | binary | timestamp | str => true
  | _ => false

/-- Whether a tag stands for collections. -/
def Tag.isCollection : Tag → Bool
  | omap | pairs | set | seq | map => true
  | _ => false

/-- The text of a node under the tag of a scalar: its own, or for a mapping that of the value
that it keeps for itself. -/
def scalarText? (nodes : Array Node) (id : NodeId) : (fuel : Nat) → Option String
  | 0 => none
  | fuel + 1 =>
    match (nodeAt nodes id).content with
    | .scalar text => some text
    | .sequence _ => none
    | .mapping pairs =>
      match pairs.find? fun (key, _) => (nodeAt nodes key).tag = .value with
      | some (_, value) => scalarText? nodes value fuel
      | none => none

/-- The value of a node under the tag of a scalar. -/
def scalarOf (nodes : Array Node) (id : NodeId) : Except Failure Scalar :=
  match scalarText? nodes id (nodes.size + 1) with
  | none => .error .malformed
  | some text => (scalarValue? (nodeAt nodes id).tag text).getD (.error .malformed)

/-! ## Merge keys -/

/-- Whether a pair says to take over entries. -/
def isMerge (nodes : Array Node) (pair : NodeId × NodeId) : Bool :=
  (nodeAt nodes pair.1).tag = .merge

/-- Makes the keys of a mapping for its own value ordinary texts. -/
def retagKeys (nodes : Array Node) (pairs : List (NodeId × NodeId)) : Array Node :=
  pairs.foldl
    (fun nodes (key, _) =>
      if (nodeAt nodes key).tag = .value then
        nodes.modify key fun node => { node with tag := .str }
      else nodes)
    nodes

/-- Puts the entries that a mapping takes over in front of its own. Of several mappings in a
list the first one's entries come last, so that they win. -/
def flatten (nodes : Array Node) (id : NodeId) : (fuel : Nat) → Except Failure (Array Node)
  | 0 => .error .malformed
  | fuel + 1 => do
    let (merges, own) := (pairsOf nodes id).partition (isMerge nodes)
    let start := retagKeys (setPairs nodes id own) own
    let (nodes, taken) ← merges.foldlM
      (fun (nodes, taken) (_, source) => do
        let sources ← match (nodeAt nodes source).content with
          | .scalar _ => .error .malformed
          | .mapping _ => pure [source]
          | .sequence items => pure items
        let nodes ← sources.foldlM
          (fun nodes source =>
            if isMapping nodes source then flatten nodes source fuel else .error .malformed)
          nodes
        return (nodes, taken ++ (sources.reverse.map (pairsOf nodes)).flatten))
      (start, [])
    return setPairs nodes id (taken ++ own)

/-! ## The survey -/

/-- How far a survey has come: the nodes as changed on the way, which of them were met, and the
collections to be looked into, the first one first. -/
structure Survey where
  nodes : Array Node
  met : Array Bool
  pending : List NodeId

namespace Survey

/-- Meets a node: a scalar must have a value, a collection is looked into later. -/
def meet (s : Survey) (id : NodeId) : Except Failure Survey :=
  if s.met[id]?.getD true then .ok s
  else
    let tag := (nodeAt s.nodes id).tag
    let s := { s with met := s.met.setIfInBounds id true }
    if tag.isScalar then (scalarOf s.nodes id).map fun _ => s
    else if tag.isCollection then .ok { s with pending := s.pending ++ [id] }
    else .error .malformed

/-- Meets the two nodes of a pair. -/
def meetPair (s : Survey) (pair : NodeId × NodeId) : Except Failure Survey := do
  (← s.meet pair.1).meet pair.2

/-- Meets the two nodes of an entry, whose key must be a scalar. -/
def meetEntry (s : Survey) (pair : NodeId × NodeId) : Except Failure Survey := do
  let s ← s.meet pair.1
  if (nodeAt s.nodes pair.1).tag.isScalar then s.meet pair.2 else .error .malformed

/-- Looks into a collection. -/
def enter (s : Survey) (id : NodeId) : Except Failure Survey := do
  let node := nodeAt s.nodes id
  match node.tag, node.content with
  | .seq, .sequence items => items.foldlM meet s
  | .map, .mapping _ | .set, .mapping _ =>
    let nodes ← flatten s.nodes id (s.nodes.size + 1)
    (pairsOf nodes id).foldlM meetEntry { s with nodes }
  | .omap, .sequence items | .pairs, .sequence items =>
    items.foldlM
      (fun s item =>
        match (nodeAt s.nodes item).content with
        | .mapping [pair] => s.meetPair pair
        | _ => .error .malformed)
      s
  | _, _ => .error .malformed

/-- Looks into one collection after another. Each node is looked into at most once. -/
def run (s : Survey) : (fuel : Nat) → Except Failure (Array Node)
  | 0 => .ok s.nodes
  | fuel + 1 =>
    match s.pending with
    | [] => .ok s.nodes
    | id :: rest => do run (← enter { s with pending := rest } id) fuel

end Survey

/-- Surveys a graph from its root: its nodes, with the entries of merge keys in place. -/
def Graph.survey (g : Graph) : Except Failure (Array Node) := do
  let start : Survey := ⟨g.nodes, Array.replicate g.nodes.size false, []⟩
  (← start.meet g.root).run (g.nodes.size + 1)

/-! ## Values -/

/-- The scalar that a node stands for as a key. -/
def keyOf (nodes : Array Node) (id : NodeId) : Scalar :=
  match scalarOf nodes id with
  | .ok s => s
  | .error _ => .null

/-- The value of a node, given those of the nodes it refers to. -/
def valueOf (nodes : Array Node) (values : Array Value) (id : NodeId) : Value :=
  let valueAt (id : NodeId) : Value := values[id]?.getD .null
  let node := nodeAt nodes id
  match node.tag, node.content with
  | .seq, .sequence items => .list (items.map valueAt)
  | .map, .mapping pairs =>
    .map (Entries.ofPairs (pairs.map fun (key, value) => (keyOf nodes key, valueAt value)))
  | .set, .mapping pairs => .set (pairs.map fun (key, _) => keyOf nodes key).eraseDups
  | .seq, _ | .omap, _ | .pairs, _ =>
    .list (((itemsOf nodes id).flatMap (pairsOf nodes)).map fun (key, value) =>
      .list [valueAt key, valueAt value])
  | .map, _ => .map []
  | .set, _ => .set []
  | _, _ => .scalar (keyOf nodes id)

/-- Fills in the values of all nodes once more, from the last node to the first. -/
def fillValues (nodes : Array Node) (values : Array Value) : Array Value :=
  (List.range nodes.size).foldr
    (fun id values => values.setIfInBounds id (valueOf nodes values id)) values

/-- The values of all nodes after so many passes. -/
def valuesAfter (nodes : Array Node) : (passes : Nat) → Array Value
  | 0 => Array.replicate nodes.size .null
  | passes + 1 => fillValues nodes (valuesAfter nodes passes)

/-- The number of passes that are made for a collection within itself. The schema of a
configuration looks at mappings within mappings and at the types of what these hold, which is less
deep. -/
def unfoldings : Nat := 4

/-- A document: its nodes, with the entries of merge keys in place, its root, and how many aliases
it has. -/
structure Document where
  nodes : Array Node
  root : NodeId
  aliases : Nat
  deriving DecidableEq

namespace Document

/-- The document of a text that holds none. -/
def empty : Document := ⟨#[], 0, 0⟩

/-- The value of a document's root. -/
def value (d : Document) : Value :=
  (valuesAfter d.nodes (d.aliases + unfoldings))[d.root]?.getD .null

/-- The node under a key of a mapping, which is the last one that is given for it. -/
def under? (d : Document) (id : NodeId) (key : Scalar) : Option NodeId :=
  if (nodeAt d.nodes id).tag = .map then
    ((pairsOf d.nodes id).reverse.find? fun pair => keyOf d.nodes pair.1 = key).map (·.2)
  else none

/-- Whether a node of a base and one of an overlay have a path of so many keys in common. -/
def descends (base overlay : Document) (b o : NodeId) : (steps : Nat) → Bool
  | 0 => true
  | steps + 1 =>
    (pairsOf overlay.nodes o).any fun pair =>
      let key := keyOf overlay.nodes pair.1
      match base.under? b key, overlay.under? o key with
      | some b', some o' => descends base overlay b' o' steps
      | _, _ => false

/-- Whether merging an overlay into a base comes to no end. Two nodes meet again on a path in
common that is longer than there are pairs of nodes. -/
def mergesForever (base overlay : Document) : Bool :=
  descends base overlay base.root overlay.root (base.nodes.size * overlay.nodes.size + 1)

end Document

/-- The document of a graph. -/
def Graph.document (g : Graph) : Except Failure Document := do
  return ⟨← g.survey, g.root, g.aliases⟩

/-- Reads a YAML text. -/
def read (text : String) : Except Failure Document := do
  match ← Graph.ofTokens? (← tokens (uniformLineEnds text.toList)) with
  | some graph => graph.document
  | none => return .empty

end Sequencer.Yaml
