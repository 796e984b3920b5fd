import ThemeLint.Yaml.Meaning
import ThemeLint.Yaml.Token.Lexer

set_option autoImplicit false

namespace ThemeLint.Yaml

inductive Kind where
  | list
  | pairs
  | set
  | mapping
  deriving DecidableEq, Repr

inductive Value where
  | scalar (value : Scalar)
  | list (items : List Value)
  | pairs (items : List (Value × Value))
  | set (members : List Scalar)
  | mapping (entries : List (Scalar × Value))
  | loop (kind : Kind)
  deriving Inhabited

namespace Value

def null : Value := .scalar .null

def holds : Value → Bool
  | .scalar s => s.holds
  | .list items => !items.isEmpty
  | .pairs items => !items.isEmpty
  | .set members => !members.isEmpty
  | .mapping entries => !entries.isEmpty
  | .loop _ => true

def isMapping : Value → Bool
  | .mapping _ | .loop .mapping => true
  | _ => false

end Value

def Content.kind : Content → Kind
  | .scalar _ | .list _ => .list
  | .pairs _ => .pairs
  | .set _ => .set
  | .mapping _ => .mapping

abbrev Grow := StateM (Array (Option Value))

/-- The tree of a node. `path` are the nodes that it stands in. -/
def growTree (contents : Array (Option Content)) :
    (fuel : Nat) → (path : List NodeId) → NodeId → Grow Value
  | 0, _, _ => return .null
  | fuel + 1, path, id => do
    match (contents[id]?).getD none with
    | none => return .null
    | some c =>
      if path.contains id then return .loop c.kind
      else if let some (some v) := (← get)[id]? then return v
      else
        let grow := growTree contents fuel (id :: path)
        let v ← match c with
          | .scalar s => pure (.scalar s)
          | .set members => pure (.set members)
          | .list items => Value.list <$> items.mapM grow
          | .pairs items => Value.pairs <$> items.mapM fun (a, b) => do return (← grow a, ← grow b)
          | .mapping entries => Value.mapping <$> entries.mapM fun (k, a) => do return (k, ← grow a)
        modify (·.setIfInBounds id (some v))
        return v

def treeOf (contents : Array (Option Content)) (root : NodeId) : Value :=
  (growTree contents (contents.size + 1) [] root |>.run (contents.map fun _ => none)).1

inductive LoadFault where
  | malformed
  | fault (why : Fault)
  deriving DecidableEq, Repr

def LoadFault.ofFault : Fault → LoadFault
  | .meaningless => .malformed
  | why => .fault why

def LoadFault.ofMalformed : Malformed → LoadFault
  | .grammar => .malformed
  | .tooDeep => .fault .tooDeep
  | .noSuchCharacter => .fault .noSuchCharacter
  | .codeTooLarge => .fault .codeTooLarge
  | .tooManyDigits count => .fault (.tooManyDigits count)

def load (text : String) : Except LoadFault Value :=
  match Graph.ofTokens (Token.scan text) with
  | .error why => .error (.ofMalformed why)
  | .ok g =>
    match g.root with
    | none => .ok .null
    | some root =>
      match g.meaning root with
      | .error why => .error (.ofFault why)
      | .ok contents => .ok (treeOf contents root)

end ThemeLint.Yaml
