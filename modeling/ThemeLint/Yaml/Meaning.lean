import ThemeLint.Yaml.Graph
import ThemeLint.Yaml.Scalar

/-!
What the nodes of a graph mean. Scalars get their values where they are met; collections are set
aside and filled in the order in which they were met, so faults come to light level by level. The
merge marks of a mapping are replaced by the entries that they stand for, in front of its own.
-/

set_option autoImplicit false

namespace ThemeLint.Yaml

inductive Content where
  | scalar (value : Scalar)
  | list (items : List NodeId)
  | pairs (items : List (NodeId × NodeId))
  | set (members : List Scalar)
  | mapping (entries : List (Scalar × NodeId))
  deriving DecidableEq, Repr

structure Reading where
  nodes : Array GraphNode
  contents : Array (Option Content)
  waiting : List NodeId

abbrev Read := StateT Reading (Except Fault)

namespace Read

def nodeAt (id : NodeId) : Read GraphNode := do
  match (← get).nodes[id]? with
  | some n => return n
  | none => throw .meaningless

def setContent (id : NodeId) (c : Content) : Read Unit :=
  modify fun r => { r with contents := r.contents.setIfInBounds id (some c) }

def setEntries (id : NodeId) (entries : List (NodeId × NodeId)) : Read Unit :=
  modify fun r => { r with
    nodes := r.nodes.modify id fun n => { n with shape := .mapping entries } }

/-- So many nodes may stand for one another in a row: mappings for their defaults, or merge marks for
mappings. -/
def chainLimit : Nat := 982

/-- The text of a scalar. A mapping may hold a default in place of one; after as many defaults as the
depth says there must be a text. -/
def textOf : (depth : Nat) → NodeId → Read WideText
  | 0, _ => throw .tooDeep
  | depth + 1, id => do
    match (← nodeAt id).shape with
    | .scalar text => return text
    | .sequence _ => throw .meaningless
    | .mapping entries =>
      for (key, value) in entries do
        if (← nodeAt key).tag = .value then return ← textOf depth value
      throw .meaningless

def emptyContent? : Tag → Option Content
  | .seq => some (.list [])
  | .map => some (.mapping [])
  | .set => some (.set [])
  | .orderedMap | .pairs => some (.pairs [])
  | _ => none

def isScalarTag : Tag → Bool
  | .null | .bool | .int | .float | .str | .binary | .timestamp => true
  | _ => false

def meet (id : NodeId) : Read Unit := do
  if (((← get).contents[id]?).getD none).isSome then return
  let n ← nodeAt id
  match emptyContent? n.tag with
  | some c =>
    setContent id c
    modify fun r => { r with waiting := r.waiting ++ [id] }
  | none =>
    if !isScalarTag n.tag then throw .meaningless
    let text ← textOf chainLimit id
    match n.shape, n.tag with
    | .mapping _, .timestamp => throw .timestampOfMapping
    | _, _ =>
      match Scalar.ofText n.tag id text with
      | .ok s => setContent id (.scalar s)
      | .error fault => throw fault

def entriesOf (id : NodeId) : Read (List (NodeId × NodeId)) := do
  match (← nodeAt id).shape with
  | .mapping entries => return entries
  | _ => throw .meaningless

/-- A bound on the steps of merging. A mapping that took as many would fit into no memory. -/
def mergeLimit : Nat := Nat.pow 2 64

/-- Goes through the entries of a mapping from one of them on. A merge mark is taken out before what
it stands for is looked at, so a mapping may merge itself, as far as it is by then. All that is
merged ends up in front of the mapping's own entries. Merge marks lead to one another no deeper than
the depth says. -/
def flattenFrom : (fuel depth : Nat) → NodeId → (index : Nat) →
    (merged : List (NodeId × NodeId)) → Read Unit
  | 0, _, _, _, _ => throw .meaningless
  | fuel + 1, depth, id, index, merged => do
    let entries ← entriesOf id
    match entries[index]? with
    | none => if merged ≠ [] then setEntries id (merged ++ entries)
    | some (key, value) =>
      match (← nodeAt key).tag with
      | .merge =>
        setEntries id (entries.eraseIdx index)
        let flat (other : NodeId) : Read (List (NodeId × NodeId)) := do
          if depth = 0 then throw .tooDeep
          flattenFrom fuel (depth - 1) other 0 []
          entriesOf other
        let more ← match (← nodeAt value).shape with
          | .mapping _ => flat value
          | .sequence items => (fun lists => lists.reverse.flatten) <$> items.mapM flat
          | .scalar _ => throw .meaningless
        flattenFrom fuel depth id index (merged ++ more)
      | .value =>
        modify fun r => { r with nodes := r.nodes.modify key fun n => { n with tag := .str } }
        flattenFrom fuel depth id (index + 1) merged
      | _ => flattenFrom fuel depth id (index + 1) merged

def flatten (id : NodeId) : Read Unit := flattenFrom mergeLimit chainLimit id 0 []

/-- An entry put into a mapping: a key that is there keeps its place and gets the new value. -/
def insertEntry (key : Scalar) (value : NodeId) : List (Scalar × NodeId) → List (Scalar × NodeId)
  | [] => [(key, value)]
  | (k, v) :: entries =>
    if k.same key then (k, value) :: entries else (k, v) :: insertEntry key value entries

def keyOf (id : NodeId) : Read Scalar := do
  meet id
  match (← get).contents[id]? with
  | some (some (.scalar s)) => return s
  | _ => throw .meaningless

def mappingOf (id : NodeId) : Read (List (Scalar × NodeId)) := do
  flatten id
  let mut filled := []
  for (key, value) in ← entriesOf id do
    let k ← keyOf key
    meet value
    filled := insertEntry k value filled
  return filled

def fill (id : NodeId) : Read Unit := do
  let n ← nodeAt id
  match n.tag with
  | .map => setContent id (.mapping (← mappingOf id))
  | .set => setContent id (.set ((← mappingOf id).map Prod.fst))
  | .seq =>
    match n.shape with
    | .sequence items =>
      items.forM meet
      setContent id (.list items)
    | _ => throw .meaningless
  | _ =>
    match n.shape with
    | .sequence items =>
      let entries ← items.mapM fun item => do
        match ← entriesOf item with
        | [(key, value)] =>
          meet key
          meet value
          return (key, value)
        | _ => throw .meaningless
      setContent id (.pairs entries)
    | _ => throw .meaningless

def fillAll : (left : Nat) → Read Unit
  | 0 => return
  | left + 1 => do
    match (← get).waiting with
    | [] => return
    | id :: waiting =>
      modify fun r => { r with waiting := waiting }
      fill id
      fillAll left

end Read

def Graph.meaning (g : Graph) (root : NodeId) : Except Fault (Array (Option Content)) := do
  let contents := g.nodes.map fun _ => none
  let work : Read Unit := do
    Read.meet root
    Read.fillAll (g.nodes.size + 1)
  let (_, r) ← work.run ⟨g.nodes, contents, []⟩
  return r.contents

end ThemeLint.Yaml
