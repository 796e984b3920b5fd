import ThemeLint.Check

set_option autoImplicit false

namespace ThemeLint

structure Registry where
  table : ClassTable
  bindings : List (String × ClassId)
  pluginsLoaded : Bool

namespace Registry

def ofClasses (classes : List CheckClass) : Registry := ⟨⟨classes⟩, [], false⟩

def names (r : Registry) : List String := r.bindings.map Prod.fst

def find? (r : Registry) (name : String) : Option ClassId := r.bindings.lookup name

/-- A class is registered under its name, or under its title if it has none. -/
def nameFor (r : Registry) (id : ClassId) : String :=
  let name := r.table.nameOf id
  if name = "" then r.table.titleOf id else name

/-- A class bound to its name, at the end if the name is new. A name of another class is refused. -/
def register (r : Registry) (id : ClassId) : Except Failure (Registry × String) :=
  let name := r.nameFor id
  match r.find? name with
  | some other =>
    if other = id then .ok ({ r with table := r.table.setName id name }, name)
    else .error (.nameTaken name)
  | none =>
    .ok ({ r with table := r.table.setName id name, bindings := r.bindings ++ [(name, id)] }, name)

def unregister (r : Registry) (name : String) : Registry :=
  { r with bindings := r.bindings.filter fun b => b.1 ≠ name }

def make (r : Registry) (name : String) : Except Failure Check :=
  match r.find? name with
  | some id => r.table.make id
  | none => .error (.unregistered name)

def checksFor (r : Registry) (names : List String) : Except Failure (List Check) :=
  names.mapM r.make

end Registry

end ThemeLint
