/-
  FormulaQuery/Yaml/Construct.lean
  ================================
  **The value of a document.**  Nodes are given their values level by level: first the
  document, then what it holds, then what that holds.  So what is wrong nearer to the
  top of a document is met first.  A node has one value wherever its aliases stand.

  In a mapping a later entry replaces an earlier one with the same key, and the entries
  that come through `<<` stand in front of its own.
-/
import FormulaQuery.Yaml.Node

namespace FormulaQuery.Yaml

inductive Stage where
  | untouched
  | done (v : Value)
  | collection
  deriving Inhabited

structure Construction where
  nodes : Array Node
  stages : Array Stage
  /-- The collections whose nodes come next, the last one first. -/
  waiting : List Nat := []
  /-- A bound for the steps down from a node. -/
  depth : Nat

abbrev Construct := StateT Construction (Except Error)

namespace Construct

def node (id : Nat) : Construct Node := do return (← get).nodes.getD id .empty

def modifyNode (id : Nat) (f : Node → Node) : Construct Unit :=
  modify fun c => { c with nodes := c.nodes.modify id f }

def setStage (id : Nat) (s : Stage) : Construct Unit :=
  modify fun c => { c with stages := c.stages.setIfInBounds id s }

/-- The text of a node; that of a mapping is the text of its main entry. -/
def text : Nat → Nat → Construct String
  | 0, _ => throw .malformed
  | fuel + 1, id => do
    match (← node id).shape with
    | .scalar content => return content
    | .sequence _ => throw .malformed
    | .mapping entries =>
      match ← entries.findM? fun e => do return (← node e.1).kind == .main with
      | some e => text fuel e.2
      | none => throw .malformed

/-- Gives a node its value, or lets it wait if it is a collection; a node that has been
    met before is left as it is. -/
def meet (id : Nat) : Construct Unit := do
  let c ← get
  match c.stages.getD id .untouched with
  | .untouched =>
    let n ← node id
    match n.kind with
    | .list | .entries | .set | .mapping =>
      setStage id .collection
      modify fun c => { c with waiting := id :: c.waiting }
    | kind =>
      let s ← if kind = .merge ∨ kind = .main ∨ kind = .unknown then throw .malformed
        else text c.depth id
      let whole := match n.shape with
        | .scalar content => some content
        | _ => none
      setStage id (.done (← kind.read id s whole))
  | _ => return ()

/-- Meets a node that stands as a key; a collection cannot be one. -/
def meetKey (id : Nat) : Construct Unit := do
  meet id
  match (← get).stages.getD id .untouched with
  | .collection => throw .malformed
  | _ => return ()

/-- The entries of a mapping that is taken in, after it has been flattened. -/
def entriesOf (flatten : Nat → Construct Unit) (id : Nat) : Construct (List (Nat × Nat)) := do
  match (← node id).shape with
  | .mapping _ =>
    flatten id
    match (← node id).shape with
    | .mapping entries => return entries
    | _ => return []
  | _ => throw .malformed

/-- Puts the entries that come through `<<` in front of the entries of a mapping, and
    makes the sign `=` a text where it is a key. -/
def flatten : Nat → Nat → Construct Unit
  | 0, _ => throw .malformed
  | fuel + 1, id => do
    match (← node id).shape with
    | .mapping entries =>
      let kinds ← entries.mapM fun e => do return ((← node e.1).kind, e)
      for (kind, e) in kinds do
        if kind = .main then modifyNode e.1 fun n => { n with kind := .text }
      let own := (kinds.filter fun k => k.1 != .merge).map Prod.snd
      modifyNode id fun n => { n with shape := .mapping own }
      let taken ← (kinds.filter fun k => k.1 == .merge).mapM fun k => do
        match (← node k.2.2).shape with
        | .mapping _ => entriesOf (flatten fuel) k.2.2
        | .sequence items => do
          let all ← items.mapM (entriesOf (flatten fuel))
          -- later entries replace earlier ones, so the first mapping has to come last
          return all.reverse.flatten
        | .scalar _ => throw .malformed
      if !taken.flatten.isEmpty then
        modifyNode id fun n => { n with shape := .mapping (taken.flatten ++ own) }
    | _ => return ()

def meetEntry (id : Nat) : Construct Unit := do
  match (← node id).shape with
  | .mapping [(k, v)] =>
    meet k
    meet v
  | _ => throw .malformed

def expand (id : Nat) : Construct Unit := do
  let n ← node id
  match n.kind, n.shape with
  | .list, .sequence items => items.forM meet
  | .entries, .sequence items => items.forM meetEntry
  | _, .mapping _ =>
    if n.kind = .list ∨ n.kind = .entries then throw .malformed
    flatten (← get).depth id
    match (← node id).shape with
    | .mapping entries =>
      entries.forM fun e => do
        meetKey e.1
        meet e.2
    | _ => return ()
  | _, _ => throw .malformed

/-- Meets the nodes of the collections that wait, level by level. -/
def levels : Nat → Construct Unit
  | 0 => return ()
  | fuel + 1 => do
    match (← get).waiting.reverse with
    | [] => return ()
    | ids =>
      modify fun c => { c with waiting := [] }
      ids.forM expand
      levels fuel

abbrev Finish := StateM (Array (Option Value))

def assemble (c : Construction) (inside : Nat → Finish Value) (n : Node) : Finish Value :=
  match n.kind, n.shape with
  | .set, .mapping entries => return .ofMembers (← entries.mapM fun e => inside e.1)
  | _, .mapping entries =>
    return .ofEntries (← entries.mapM fun e => do return (← inside e.1, ← inside e.2))
  | .entries, .sequence items =>
    return .list (← items.mapM fun item => do
      match (c.nodes.getD item .empty).shape with
      | .mapping [(k, v)] => return .pair (← inside k) (← inside v)
      | _ => return .null)
  | _, .sequence items => return .list (← items.mapM inside)
  | _, .scalar _ => return .null

/-- The value of a node whose parts have been met; `around` are the collections that it
    stands in, the innermost first. -/
def value (c : Construction) : Nat → (around : List Nat) → Nat → Finish Value
  | 0, _, _ => return .null
  | fuel + 1, around, id => do
    let n := c.nodes.getD id .empty
    match c.stages.getD id .untouched with
    | .done v => return v
    | _ =>
      match around.idxOf? id with
      -- a collection inside of itself is told by its distance
      | some level => return .enclosing level (n.kind == .list || n.kind == .entries)
      | none =>
        match (← get).getD id none with
        | some v => return v
        | none =>
          let v ← assemble c (value c fuel (id :: around)) n
          modify fun vs => vs.setIfInBounds id (some v)
          return v

end Construct

def Graph.value (g : Graph) : Except Error Value := do
  let size := g.nodes.size
  let start : Construction :=
    { nodes := g.nodes, stages := Array.replicate size .untouched, depth := 2 * size + 2 }
  let ((), c) ← (do
    Construct.meet g.root
    Construct.levels (size + 1) : Construct Unit).run start
  return ((Construct.value c (size + 1) [] g.root).run (Array.replicate size none)).1

end FormulaQuery.Yaml
