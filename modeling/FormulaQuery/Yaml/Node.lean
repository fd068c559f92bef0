/-
  FormulaQuery/Yaml/Node.lean
  ===========================
  **The nodes of an option file.**  Tokens are put together to texts, lists and
  mappings.  A node is known by its number, so that an alias can stand for the node
  that its anchor names, even inside of that node.  A tag or the way a text is written
  settles the kind of a node.
-/
import FormulaQuery.Yaml.Scalar
import FormulaQuery.Yaml.Token.Stream

namespace FormulaQuery.Yaml

/-- What a node is made of; other nodes are given by their numbers. -/
inductive Shape where
  | scalar (content : String)
  | sequence (items : List Nat)
  | mapping (entries : List (Nat × Nat))
  deriving DecidableEq, Repr

structure Node where
  kind : Kind
  shape : Shape
  deriving DecidableEq, Repr

def Node.empty : Node := ⟨.null, .scalar ""⟩

structure Reading where
  tokens : List Token
  /-- Why there are not more tokens, if that is not the end of the file. -/
  fault : Option Error
  handles : List (String × String) := []
  anchors : List (String × Nat) := []
  nodes : Array Node := #[]

/-- A step that takes tokens off, and may refuse the file. -/
abbrev Build := StateT Reading (Except Error)

namespace Build

def refuse {α : Type} : Build α := throw .malformed

def peek : Build (Option Token) := do
  let r ← get
  match r.tokens, r.fault with
  | t :: _, _ => return some t
  | [], none => return none
  | [], some e => throw e

def drop : Build Unit := modify fun r => { r with tokens := r.tokens.tail }

/-- Takes the next token off if it is this one, and tells whether it was. -/
def take (t : Token) : Build Bool := do
  if (← peek) = some t then
    drop
    return true
  return false

def expect (t : Token) : Build Unit := do if !(← take t) then refuse

structure Properties where
  anchor : Option String := none
  tag : Option String := none

def anchor? : Build (Option String) := do
  match ← peek with
  | some (.anchor name) =>
    drop
    return some name
  | _ => return none

/-- The tag in front of a node: its handle, if it has one, and the rest. -/
def tag? : Build (Option (Option String × String)) := do
  match ← peek with
  | some (.tag handle suffix) =>
    drop
    return some (handle, suffix)
  | _ => return none

def writeOut : Option String × String → Build String
  | (none, suffix) => return suffix
  | (some handle, suffix) => do
    match (← get).handles.lookup handle with
    | some front => return front ++ suffix
    | none => refuse

def properties : Build Properties := do
  let first ← anchor?
  let tag ← tag?
  let anchor ← if first.isNone && tag.isSome then anchor? else pure first
  match tag with
  | some t => return { anchor := anchor, tag := some (← writeOut t) }
  | none => return { anchor := anchor }

/-- The kind that a tag names, or `default` without one. -/
def Properties.kind (p : Properties) (default : Kind) : Kind :=
  match p.tag with
  | none => default
  | some tag => if tag = "!" then default else Kind.ofTag tag

/-- The kind of a text: without a tag it is told by the text, if that is plain. -/
def Properties.scalarKind (p : Properties) (content : String) (isPlain : Bool) : Kind :=
  p.kind (if isPlain || p.tag.isSome then Kind.ofPlain content else .text)

def add (n : Node) : Build Nat := do
  let r ← get
  set { r with nodes := r.nodes.push n }
  return r.nodes.size

/-- Adds a node with its anchor, which must not be in use. -/
def declare (p : Properties) (n : Node) : Build Nat := do
  let id ← add n
  match p.anchor with
  | none => return id
  | some name =>
    let r ← get
    if (r.anchors.lookup name).isSome then refuse
    set { r with anchors := (name, id) :: r.anchors }
    return id

def fill (id : Nat) (shape : Shape) : Build Unit :=
  modify fun r => { r with nodes := r.nodes.modify id fun n => { n with shape := shape } }

def sequence (p : Properties) (items : Build (List Nat)) : Build Nat := do
  let id ← declare p ⟨p.kind .list, .sequence []⟩
  fill id (.sequence (← items))
  return id

def mapping (p : Properties) (entries : Build (List (Nat × Nat))) : Build Nat := do
  let id ← declare p ⟨p.kind .mapping, .mapping []⟩
  fill id (.mapping (← entries))
  return id

def resolve (name : String) : Build Nat := do
  match (← get).anchors.lookup name with
  | some id => return id
  | none => refuse

/-- Where a node stands: between brackets, in a block, or as a key or a value of a
    block mapping, where a list need not be indented. -/
inductive Place where
  | flow
  | block
  | entry
  deriving DecidableEq

mutual

def node : Nat → Place → Build Nat
  | 0, _ => refuse
  | fuel + 1, place => do
    match ← peek with
    | some (.alias name) =>
      drop
      resolve name
    | _ => content fuel place (← properties)

def content : Nat → Place → Properties → Build Nat
  | 0, _, _ => refuse
  | fuel + 1, place, p => do
    match ← peek with
    | some (.scalar content isPlain) =>
      drop
      declare p ⟨p.scalarKind content isPlain, .scalar content⟩
    | some .flowSequenceStart =>
      drop
      sequence p (flowItems fuel true)
    | some .flowMappingStart =>
      drop
      mapping p (flowEntries fuel true)
    | t =>
      if t = some .blockEntry && place = .entry then sequence p (looseItems fuel)
      else if t = some .blockSequenceStart && place ≠ .flow then
        drop
        sequence p (blockItems fuel)
      else if t = some .blockMappingStart && place ≠ .flow then
        drop
        mapping p (blockEntries fuel)
      else if p.anchor.isSome || p.tag.isSome then
        declare p ⟨p.scalarKind "" true, .scalar ""⟩
      else refuse

/-- A node, or nothing in front of the end or of one of these tokens. -/
def nodeBefore : Nat → Place → List Token → Build Nat
  | 0, _, _ => refuse
  | fuel + 1, place, stops => do
    match ← peek with
    | some t => if stops.contains t then add .empty else node fuel place
    | none => refuse

def blockItems : Nat → Build (List Nat)
  | 0 => refuse
  | fuel + 1 => do
    if ← take .blockEntry then
      let item ← nodeBefore fuel .block [.blockEntry, .blockEnd]
      return item :: (← blockItems fuel)
    expect .blockEnd
    return []

/-- The items of a list that is not indented further than its key. -/
def looseItems : Nat → Build (List Nat)
  | 0 => refuse
  | fuel + 1 => do
    if ← take .blockEntry then
      let item ← nodeBefore fuel .block [.blockEntry, .key, .value, .blockEnd]
      return item :: (← looseItems fuel)
    return []

def blockEntries : Nat → Build (List (Nat × Nat))
  | 0 => refuse
  | fuel + 1 => do
    if ← take .key then
      let stops := [Token.key, .value, .blockEnd]
      let k ← nodeBefore fuel .entry stops
      let v ← if ← take .value then nodeBefore fuel .entry stops else add .empty
      return (k, v) :: (← blockEntries fuel)
    expect .blockEnd
    return []

def flowPair : Nat → Token → Build (Nat × Nat)
  | 0, _ => refuse
  | fuel + 1, closing => do
    let k ← nodeBefore fuel .flow [.value, .flowEntry, closing]
    let v ← if ← take .value then nodeBefore fuel .flow [.flowEntry, closing] else add .empty
    return (k, v)

/-- The items of a list between brackets; a pair among them is a mapping. -/
def flowItems : Nat → (first : Bool) → Build (List Nat)
  | 0, _ => refuse
  | fuel + 1, first => do
    if ← take .flowSequenceEnd then return []
    if !first then expect .flowEntry
    if ← take .flowSequenceEnd then return []
    if ← take .key then
      let item ← mapping {} (do return [← flowPair fuel .flowSequenceEnd])
      return item :: (← flowItems fuel false)
    let item ← node fuel .flow
    return item :: (← flowItems fuel false)

/-- The entries of a mapping between brackets; a key may stand without a value. -/
def flowEntries : Nat → (first : Bool) → Build (List (Nat × Nat))
  | 0, _ => refuse
  | fuel + 1, first => do
    if ← take .flowMappingEnd then return []
    if !first then expect .flowEntry
    if ← take .flowMappingEnd then return []
    if ← take .key then
      let pair ← flowPair fuel .flowMappingEnd
      return pair :: (← flowEntries fuel false)
    let k ← node fuel .flow
    let v ← add .empty
    return (k, v) :: (← flowEntries fuel false)

end

/-! ### Documents -/

def standardHandles : List (String × String) := [("!", "!"), ("!!", standardTag)]

/-- The directives in front of a document: one version at most, of the first major
    version, and one value at most for each handle. -/
def directives : Nat → (versioned : Bool) → Build Unit
  | 0, _ => refuse
  | fuel + 1, versioned => do
    match ← peek with
    | some (.versionDirective major) =>
      if versioned || major != 1 then refuse
      drop
      directives fuel true
    | some (.tagDirective handle value) =>
      let r ← get
      if (r.handles.lookup handle).isSome then refuse
      set { r with handles := (handle, value) :: r.handles }
      drop
      directives fuel versioned
    | some .otherDirective =>
      drop
      directives fuel versioned
    | _ => return ()

def documentEnds : Nat → Build Unit
  | 0 => return ()
  | fuel + 1 => do if ← take .documentEnd then documentEnds fuel

def documentContent (fuel : Nat) : Build Nat := do
  match ← peek with
  | none => add .empty
  | some .documentStart => add .empty
  | some .documentEnd => add .empty
  | some (.versionDirective _) => add .empty
  | some (.tagDirective _ _) => add .empty
  | some .otherDirective => add .empty
  | some _ => node fuel .block

def announces : Token → Bool
  | .versionDirective _ => true
  | .tagDirective _ _ => true
  | .otherDirective => true
  | .documentStart => true
  | _ => false

/-- The only document of a file; a file without tokens has none. -/
def document (fuel : Nat) : Build (Option Nat) := do
  match ← peek with
  | none => return none
  | some t =>
    if announces t then
      directives fuel false
      expect .documentStart
    modify fun r => { r with
      handles := r.handles ++ standardHandles.filter fun h => (r.handles.lookup h.1).isNone }
    let n ← if announces t then documentContent fuel else node fuel .block
    documentEnds fuel
    if (← peek).isSome then
      modify fun r => { r with handles := [] }
      directives fuel false
      refuse
    return some n

end Build

/-- The nodes of a document, and the number of the one that holds the others. -/
structure Graph where
  nodes : Array Node
  root : Nat
  deriving Repr

/-- The only document among the tokens of a file: nothing if there is none. -/
def Graph.ofTokens? (ts : List Token) (fault : Option Error) : Except Error (Option Graph) := do
  let (root, r) ← (Build.document (4 * ts.length + 8)).run { tokens := ts, fault := fault }
  return root.map (⟨r.nodes, ·⟩)

end FormulaQuery.Yaml
