import ThemeLint.Yaml.Tag
import ThemeLint.Yaml.Token.Basic

/-!
The nodes of a YAML document. Nodes refer to one another by number, since an alias may lead back to
a collection that is still being read. A text holds one document or none, and its nodes are nested
no deeper than a limit.
-/

set_option autoImplicit false

namespace ThemeLint.Yaml

abbrev NodeId := Nat

inductive Shape where
  | scalar (text : WideText)
  | sequence (items : List NodeId)
  | mapping (entries : List (NodeId × NodeId))
  deriving DecidableEq, Repr

structure GraphNode where
  tag : Tag
  shape : Shape
  deriving DecidableEq, Repr

structure Graph where
  nodes : Array GraphNode
  root : Option NodeId
  deriving Repr

structure GraphBuilder where
  tokens : List Token
  nodes : Array GraphNode
  anchors : List (String × NodeId)
  handles : List (String × String)
  depth : Nat

abbrev Build := StateT GraphBuilder (Except Malformed)

namespace Build

def refuse {α : Type} : Build α := throw .grammar

def peek : Build Token := do
  match (← get).tokens with
  | [] => refuse
  | .fault why :: _ => throw why
  | t :: _ => return t

def drop : Build Unit := modify fun b => { b with tokens := b.tokens.drop 1 }

def takeIf (t : Token) : Build Bool := do
  if (← peek) = t then
    drop
    return true
  else return false

def expect (t : Token) : Build Unit := do
  if !(← takeIf t) then refuse

/-- A node may stand in so many collections, one inside another, and in no more. -/
def depthLimit : Nat := 488

def checkDepth : Build Unit := do
  if depthLimit < (← get).depth then throw .tooDeep

def within {α : Type} (contents : Build α) : Build α := do
  modify fun b => { b with depth := b.depth + 1 }
  let a ← contents
  modify fun b => { b with depth := b.depth - 1 }
  return a

def add (tag : Tag) (shape : Shape) : Build NodeId := do
  let b ← get
  set { b with nodes := b.nodes.push ⟨tag, shape⟩ }
  return b.nodes.size

def fill (id : NodeId) (shape : Shape) : Build Unit :=
  modify fun b => { b with nodes := b.nodes.modify id fun n => { n with shape := shape } }

def nothing : Build NodeId := do
  checkDepth
  add .null (.scalar (WideText.ofString ""))

def name (anchor : Option String) (id : NodeId) : Build Unit :=
  match anchor with
  | none => return
  | some a => modify fun b => { b with anchors := (a, id) :: b.anchors }

def properties : Build (Option String × Option TagName) := do
  match ← peek with
  | .anchor a =>
    drop
    match ← peek with
    | .tag t =>
      drop
      return (some a, some t)
    | _ => return (some a, none)
  | .tag t =>
    drop
    match ← peek with
    | .anchor a =>
      drop
      return (some a, some t)
    | _ => return (none, some t)
  | _ => return (none, none)

def spellOut (t : TagName) : Build String := do
  match t.handle with
  | none => return t.suffix
  | some h =>
    match (← get).handles.lookup h with
    | some beginning => return beginning ++ t.suffix
    | none => refuse

def isOpen : Option String → Bool
  | none => true
  | some t => t == "!"

def collectionTag (given : Option String) (usual : Tag) : Tag :=
  match given with
  | some t => if t = "!" then usual else .ofName t
  | none => usual

/-- The tag that the form of a text suggests. No form has room for half of a surrogate pair. -/
def formTag (text : WideText) : Tag := (text.plain?.map Tag.ofForm).getD .str

def scalarTag (given : Option String) (plain : Bool) (text : WideText) : Tag :=
  match given with
  | some t => if t = "!" then formTag text else .ofName t
  | none => if plain then formTag text else .str

def begin (anchor : Option String) (tag : Tag) (shape : Shape) : Build NodeId := do
  let id ← add tag shape
  name anchor id
  return id

mutual

/-- A node. In a block it may be a block collection, and behind a key or its colon also a sequence
no deeper than the key. -/
def node (block flush : Bool) : (fuel : Nat) → Build NodeId
  | 0 => refuse
  | fuel + 1 => do
    checkDepth
    if let .alias a := ← peek then
      drop
      match (← get).anchors.lookup a with
      | some id => return id
      | none => refuse
    else
      let (anchor, tagName) ← properties
      let tag ← match tagName with
        | none => pure none
        | some t => some <$> spellOut t
      let content ← peek
      if let some a := anchor then
        if ((← get).anchors.lookup a).isSome then refuse
      match content with
      | .blockEntry =>
        if flush then
          let id ← begin anchor (collectionTag tag .seq) (.sequence [])
          fill id (.sequence (← within (flushItems fuel)))
          return id
        else bare anchor tag
      | .scalar text plain =>
        drop
        let id ← add (scalarTag tag plain text) (.scalar text)
        name anchor id
        return id
      | .flowSequenceStart =>
        drop
        let id ← begin anchor (collectionTag tag .seq) (.sequence [])
        fill id (.sequence (← within (flowItems true fuel)))
        return id
      | .flowMappingStart =>
        drop
        let id ← begin anchor (collectionTag tag .map) (.mapping [])
        fill id (.mapping (← within (flowEntries true fuel)))
        return id
      | .blockSequenceStart =>
        if block then
          drop
          let id ← begin anchor (collectionTag tag .seq) (.sequence [])
          fill id (.sequence (← within (blockItems fuel)))
          return id
        else bare anchor tag
      | .blockMappingStart =>
        if block then
          drop
          let id ← begin anchor (collectionTag tag .map) (.mapping [])
          fill id (.mapping (← within (blockEntries fuel)))
          return id
        else bare anchor tag
      | _ => bare anchor tag

def bare (anchor tag : Option String) : Build NodeId := do
  if anchor.isNone && tag.isNone then refuse
  else
    let tag := if isOpen tag then .ofForm "" else collectionTag tag .null
    let id ← add tag (.scalar (WideText.ofString ""))
    name anchor id
    return id

/-- The items of a sequence that its mapping does not indent. -/
def flushItems : (fuel : Nat) → Build (List NodeId)
  | 0 => refuse
  | fuel + 1 => do
    if !(← takeIf .blockEntry) then return []
    let item ← match ← peek with
      | .blockEntry | .key | .value | .blockEnd => nothing
      | _ => node true false fuel
    return item :: (← flushItems fuel)

def blockItems : (fuel : Nat) → Build (List NodeId)
  | 0 => refuse
  | fuel + 1 => do
    if ← takeIf .blockEntry then
      let item ← match ← peek with
        | .blockEntry | .blockEnd => nothing
        | _ => node true false fuel
      return item :: (← blockItems fuel)
    else
      expect .blockEnd
      return []

def blockPart : (fuel : Nat) → Build NodeId
  | 0 => refuse
  | fuel + 1 => do
    match ← peek with
    | .key | .value | .blockEnd => nothing
    | _ => node true true fuel

def blockEntries : (fuel : Nat) → Build (List (NodeId × NodeId))
  | 0 => refuse
  | fuel + 1 => do
    if ← takeIf .key then
      let key ← blockPart fuel
      let value ← if ← takeIf .value then blockPart fuel else nothing
      return (key, value) :: (← blockEntries fuel)
    else
      expect .blockEnd
      return []

def flowKey (close : Token) : (fuel : Nat) → Build NodeId
  | 0 => refuse
  | fuel + 1 => do
    let t ← peek
    if t = .value || t = .flowEntry || t = close then nothing else node false false fuel

def flowValue (close : Token) : (fuel : Nat) → Build NodeId
  | 0 => refuse
  | fuel + 1 => do
    if ← takeIf .value then
      let t ← peek
      if t = .flowEntry || t = close then nothing else node false false fuel
    else nothing

/-- The items of a sequence in brackets; one with a colon is a mapping of its own. -/
def flowItems (first : Bool) : (fuel : Nat) → Build (List NodeId)
  | 0 => refuse
  | fuel + 1 => do
    if ← takeIf .flowSequenceEnd then return []
    if !first then expect .flowEntry
    if ← takeIf .flowSequenceEnd then return []
    let item ←
      if ← takeIf .key then
        checkDepth
        let id ← add .map (.mapping [])
        let key ← within (flowKey .flowSequenceEnd fuel)
        let value ← within (flowValue .flowSequenceEnd fuel)
        fill id (.mapping [(key, value)])
        pure id
      else node false false fuel
    return item :: (← flowItems false fuel)

def flowEntries (first : Bool) : (fuel : Nat) → Build (List (NodeId × NodeId))
  | 0 => refuse
  | fuel + 1 => do
    if ← takeIf .flowMappingEnd then return []
    if !first then expect .flowEntry
    if ← takeIf .flowMappingEnd then return []
    let entry ←
      if ← takeIf .key then
        let key ← flowKey .flowMappingEnd fuel
        let value ← flowValue .flowMappingEnd fuel
        pure (key, value)
      else
        let key ← node false false fuel
        let value ← nothing
        pure (key, value)
    return entry :: (← flowEntries false fuel)

end

def usualHandles : List (String × String) := [("!", "!"), ("!!", standardTags)]

/-- The directives before a document: one version, which must be 1, and handles for tags. -/
def directives (versioned : Bool) : (fuel : Nat) → Build Unit
  | 0 => refuse
  | fuel + 1 => do
    match ← peek with
    | .directive (.version major _) =>
      if versioned || major ≠ 1 then refuse
      drop
      directives true fuel
    | .directive (.tag handle beginning) =>
      if ((← get).handles.lookup handle).isSome then refuse
      drop
      modify fun b => { b with handles := (handle, beginning) :: b.handles }
      directives versioned fuel
    | .directive .other =>
      drop
      directives versioned fuel
    | _ => modify fun b => { b with handles := b.handles ++ usualHandles }

def dropDocumentEnds : (fuel : Nat) → Build Unit
  | 0 => refuse
  | fuel + 1 => do
    if ← takeIf .documentEnd then dropDocumentEnds fuel

/-- The end of the text must follow. The directives of another document are still looked at. -/
def atEnd (fuel : Nat) : Build Unit := do
  if !(← takeIf .streamEnd) then
    modify fun b => { b with handles := [] }
    directives false fuel
    refuse

def document (fuel : Nat) : Build (Option NodeId) := do
  let root ← match ← peek with
    | .streamEnd => return none
    | .directive _ | .documentStart =>
      directives false fuel
      expect .documentStart
      match ← peek with
      | .directive _ | .documentStart | .documentEnd | .streamEnd => nothing
      | _ => node true false fuel
    | _ =>
      modify fun b => { b with handles := usualHandles }
      node true false fuel
  dropDocumentEnds fuel
  atEnd fuel
  return some root

end Build

def Graph.ofTokens (tokens : List Token) : Except Malformed Graph := do
  let fuel := 4 * tokens.length + 8
  let (root, b) ← (Build.document fuel).run ⟨tokens, #[], [], [], 0⟩
  return ⟨b.nodes, root⟩

end ThemeLint.Yaml
