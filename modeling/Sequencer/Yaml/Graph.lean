import Sequencer.Yaml.Tag

/-!
# The graph of a YAML document

A document is a graph of nodes: scalars, sequences and mappings, each with a tag. An alias is one
more edge to a node that has an anchor, so that a node may have several parents and may even lie
within itself. `Graph.ofTokens` builds the graph of the only document of a text.
-/

namespace Sequencer.Yaml

/-- The number of a node in its graph. -/
abbrev NodeId := Nat

/-- What a node holds. -/
inductive Content
  | scalar (text : String)
  | sequence (items : List NodeId)
  | mapping (pairs : List (NodeId × NodeId))
  deriving DecidableEq, Repr

/-- A node. -/
structure Node where
  tag : Tag
  content : Content
  deriving DecidableEq, Repr

/-- A document: its nodes, its root, and how many aliases it has. -/
structure Graph where
  nodes : Array Node
  root : NodeId
  aliases : Nat

/-! ## Building -/

/-- What is known while a graph is built. -/
structure Builder where
  /-- The tokens still to be read. -/
  tokens : List Token
  nodes : Array Node
  /-- The nodes of the anchors met so far. -/
  anchors : List (String × NodeId)
  aliases : Nat
  /-- What the tag handles stand for. -/
  handles : List (String × String)

/-- A step of building. -/
abbrev Build (α : Type) := StateT Builder (Except Failure) α

namespace Build

/-- Gives up. -/
def fail {α : Type} : Build α := throw .malformed

/-- The token at hand. -/
def peek? : Build (Option Token) := return (← get).tokens.head?

/-- Goes on behind the token at hand. -/
def advance : Build Unit := modify fun b => { b with tokens := b.tokens.tail }

/-- Goes on behind a token if it is the one at hand, and tells whether it was. -/
def accept (token : Token) : Build Bool := do
  if (← peek?) = some token then
    advance
    return true
  else return false

/-- Goes on behind a token, which must be at hand. -/
def expect (token : Token) : Build Unit := do
  unless ← accept token do fail

/-- Whether one of these tokens is at hand. -/
def atOneOf (tokens : List Token) : Build Bool := do
  match ← peek? with
  | some token => return token ∈ tokens
  | none => return false

/-- Adds a node. -/
def add (node : Node) : Build NodeId := do
  let id := (← get).nodes.size
  modify fun b => { b with nodes := b.nodes.push node }
  return id

/-- Adds the node of a scalar that is not written. -/
def addEmpty : Build NodeId := add ⟨.null, .scalar ""⟩

/-- Gives a node its content. -/
def fill (id : NodeId) (content : Content) : Build Unit :=
  modify fun b => { b with
    nodes := b.nodes.modify id fun node => { node with content } }

/-- Gives a node a name. The name must be new in the document. -/
def name (anchor : Option String) (id : NodeId) : Build Unit :=
  match anchor with
  | none => pure ()
  | some anchor => modify fun b => { b with anchors := (anchor, id) :: b.anchors }

/-- The full name of a tag. -/
def tagName (tag : TagName) : Build String := do
  match tag.handle with
  | none => return tag.suffix
  | some handle =>
    match (← get).handles.lookup handle with
    | some expansion => return expansion ++ tag.suffix
    | none => fail

/-- Reads the anchor and the tag of a node, in either order. -/
def properties : Build (Option String × Option String) := do
  match ← peek? with
  | some (.anchor anchor) =>
    advance
    match ← peek? with
    | some (.tag tag) =>
      advance
      return (some anchor, some (← tagName tag))
    | _ => return (some anchor, none)
  | some (.tag tag) =>
    advance
    match ← peek? with
    | some (.anchor anchor) =>
      advance
      return (some anchor, some (← tagName tag))
    | _ => return (none, some (← tagName tag))
  | _ => return (none, none)

/-- The tag of a node that is written with this one, given the tag it has otherwise. A lone
exclamation mark is as good as no tag. -/
def tagOr (written : Option String) (default : Tag) : Tag :=
  match written with
  | none | some "!" => default
  | some name => .ofName name

/-- The tag of a scalar. -/
def scalarTag (written : Option String) (plain : Bool) (text : String) : Tag :=
  tagOr written (if plain ∨ written = some "!" then .ofPlain text else .str)

/-- Where a node may stand, which decides what it may be. -/
inductive Place
  /-- In a flow collection. -/
  | flow
  /-- In a block collection. -/
  | block
  /-- In a block mapping, where the dashes of a sequence need not be indented. -/
  | blockMapping
  deriving DecidableEq, Repr

/-- A node unless one of these tokens is at hand, which means that it is not written. -/
def orEmpty (stops : List Token) (node : Build NodeId) : Build NodeId := do
  if ← atOneOf stops then addEmpty else node

mutual

/-- Reads a node. -/
def node (place : Place) : (fuel : Nat) → Build NodeId
  | 0 => fail
  | fuel + 1 => do
    match ← peek? with
    | some (.alias anchor) =>
      advance
      modify fun b => { b with aliases := b.aliases + 1 }
      match (← get).anchors.lookup anchor with
      | some id => return id
      | none => fail
    | _ =>
      let (anchor, tag) ← properties
      if let some anchor := anchor then
        if ((← get).anchors.lookup anchor).isSome then fail
      match ← peek? with
      | some (.scalar plain text) =>
        advance
        let id ← add ⟨scalarTag tag plain text, .scalar text⟩
        name anchor id
        return id
      | some .flowSequenceStart =>
        advance
        let id ← sequenceNode anchor tag
        fill id (.sequence (← flowItems true fuel))
        return id
      | some .flowMappingStart =>
        advance
        let id ← mappingNode anchor tag
        fill id (.mapping (← flowPairs true fuel))
        return id
      | some .blockSequenceStart =>
        if place = .flow then fail
        advance
        let id ← sequenceNode anchor tag
        fill id (.sequence (← blockItems fuel))
        return id
      | some .blockMappingStart =>
        if place = .flow then fail
        advance
        let id ← mappingNode anchor tag
        fill id (.mapping (← blockPairs fuel))
        return id
      | next =>
        if place = .blockMapping ∧ next = some .blockEntry then
          let id ← sequenceNode anchor tag
          fill id (.sequence (← looseItems fuel))
          return id
        else if anchor.isSome ∨ tag.isSome then
          let id ← add ⟨tagOr tag .null, .scalar ""⟩
          name anchor id
          return id
        else fail
where
  /-- Adds a sequence whose items are still to come. -/
  sequenceNode (anchor tag : Option String) : Build NodeId := do
    let id ← add ⟨tagOr tag .seq, .sequence []⟩
    name anchor id
    return id
  /-- Adds a mapping whose pairs are still to come. -/
  mappingNode (anchor tag : Option String) : Build NodeId := do
    let id ← add ⟨tagOr tag .map, .mapping []⟩
    name anchor id
    return id

/-- Reads the items of a block sequence up to its end. -/
def blockItems : (fuel : Nat) → Build (List NodeId)
  | 0 => fail
  | fuel + 1 => do
    if ← accept .blockEntry then
      let item ← orEmpty [.blockEntry, .blockEnd] (node .block fuel)
      return item :: (← blockItems fuel)
    else
      expect .blockEnd
      return []

/-- Reads the items of a sequence whose dashes are not indented. -/
def looseItems : (fuel : Nat) → Build (List NodeId)
  | 0 => fail
  | fuel + 1 => do
    if ← accept .blockEntry then
      let item ← orEmpty [.blockEntry, .key, .value, .blockEnd] (node .block fuel)
      return item :: (← looseItems fuel)
    else return []

/-- Reads the pairs of a block mapping up to its end. -/
def blockPairs : (fuel : Nat) → Build (List (NodeId × NodeId))
  | 0 => fail
  | fuel + 1 => do
    if ← accept .key then
      let key ← orEmpty [.key, .value, .blockEnd] (node .blockMapping fuel)
      let value ← if ← accept .value then
          orEmpty [.key, .value, .blockEnd] (node .blockMapping fuel)
        else addEmpty
      return (key, value) :: (← blockPairs fuel)
    else
      expect .blockEnd
      return []

/-- Reads the items of a flow sequence up to its end. A key among them makes an item that is a
mapping of one pair. -/
def flowItems (first : Bool) : (fuel : Nat) → Build (List NodeId)
  | 0 => fail
  | fuel + 1 => do
    if ← accept .flowSequenceEnd then return []
    unless first do expect .flowEntry
    if ← accept .flowSequenceEnd then return []
    if ← accept .key then
      let id ← add ⟨.map, .mapping []⟩
      let key ← orEmpty [.value, .flowEntry, .flowSequenceEnd] (node .flow fuel)
      let value ← if ← accept .value then
          orEmpty [.flowEntry, .flowSequenceEnd] (node .flow fuel)
        else addEmpty
      fill id (.mapping [(key, value)])
      return id :: (← flowItems false fuel)
    else
      let item ← node .flow fuel
      return item :: (← flowItems false fuel)

/-- Reads the pairs of a flow mapping up to its end. -/
def flowPairs (first : Bool) : (fuel : Nat) → Build (List (NodeId × NodeId))
  | 0 => fail
  | fuel + 1 => do
    if ← accept .flowMappingEnd then return []
    unless first do expect .flowEntry
    if ← accept .flowMappingEnd then return []
    if ← accept .key then
      let key ← orEmpty [.value, .flowEntry, .flowMappingEnd] (node .flow fuel)
      let value ← if ← accept .value then
          orEmpty [.flowEntry, .flowMappingEnd] (node .flow fuel)
        else addEmpty
      return (key, value) :: (← flowPairs false fuel)
    else
      let key ← node .flow fuel
      let value ← addEmpty
      return (key, value) :: (← flowPairs false fuel)

end

/-! ## Documents -/

/-- Reads the directives in front of a document: at most one version, and each handle once. -/
def directives (version : Bool) : (fuel : Nat) → Build Unit
  | 0 => fail
  | fuel + 1 => do
    match ← peek? with
    | some (.directive (.version major)) =>
      if version ∨ major ≠ 1 then fail
      advance
      directives true fuel
    | some (.directive (.tagHandle handle expansion)) =>
      if ((← get).handles.lookup handle).isSome then fail
      modify fun b => { b with handles := (handle, expansion) :: b.handles }
      advance
      directives version fuel
    | some (.directive .other) =>
      advance
      directives version fuel
    | _ => return ()

/-- The handles that stand for something without a directive. -/
def standardHandles : List (String × String) := [("!", "!"), ("!!", coreTags)]

/-- Adds the standard handles behind those of the directives. -/
def addStandardHandles : Build Unit :=
  modify fun b => { b with handles := b.handles ++ standardHandles }

/-- Skips the marks of a document's end. -/
def skipEnds : (fuel : Nat) → Build Unit
  | 0 => return ()
  | fuel + 1 => do
    if ← accept .documentEnd then skipEnds fuel

/-- Reads the root of the document, if there is one. -/
def root? (fuel : Nat) : Build (Option NodeId) := do
  match ← peek? with
  | none => return none
  | some (.directive _) | some .documentStart =>
    directives false fuel
    addStandardHandles
    expect .documentStart
    match ← peek? with
    | none | some .documentEnd | some .documentStart | some (.directive _) =>
      return some (← addEmpty)
    | _ => return some (← node .block fuel)
  | _ =>
    addStandardHandles
    return some (← node .block fuel)

/-- Reads the only document of a text. -/
def document? (fuel : Nat) : Build (Option NodeId) := do
  let root ← root? fuel
  if root.isSome then
    skipEnds fuel
  if (← peek?).isSome then fail
  return root

end Build

/-- The graph of the only document of a text, if there is one. A node takes a token or stands for
one that is missing, so three steps for each token are enough. -/
def Graph.ofTokens? (tokens : List Token) : Except Failure (Option Graph) := do
  let start : Builder := ⟨tokens, #[], [], 0, []⟩
  let (root, built) ← (Build.document? (3 * tokens.length + 3)).run start
  return root.map fun root => ⟨built.nodes, root, built.aliases⟩

end Sequencer.Yaml
