import ThemeLint.Traced
import ThemeLint.Registry

set_option autoImplicit false

namespace ThemeLint

inductive Plugin where
  | check (id : ClassId)
  | otherObject
  | broken (failure : Failure)

structure EntryPoint where
  name : String
  plugin : Plugin

namespace Registry

/-- Loads plugins in order; gives the names of those that could be loaded. -/
def loadFrom (r : Registry) : List EntryPoint → Registry × Traced (List String)
  | [] => (r, pure [])
  | e :: rest =>
    match e.plugin with
    | .broken failure =>
      match failure.message with
      | .error trouble => (r, Traced.fail trouble)
      | .ok words =>
        let (r, names) := r.loadFrom rest
        (r, do
          Traced.warning s!"Falha ao carregar plugin {e.name}: {words}"
          names)
    | .otherObject =>
      let (r, names) := r.loadFrom rest
      (r, do return e.name :: (← names))
    | .check id =>
      match r.register id with
      | .error failure => (r, Traced.fail failure)
      | .ok (r, _) =>
        let (r, names) := r.loadFrom rest
        (r, do return e.name :: (← names))

def loadPlugins (r : Registry) (entryPoints : List EntryPoint) : Registry × Traced (List String) :=
  if r.pluginsLoaded then (r, pure [])
  else
    let (r, names) := loadFrom { r with pluginsLoaded := true } entryPoints
    (r, do
      let names ← names
      let row := ", ".intercalate names
      if names ≠ [] then Traced.info s!"Plugins de checks carregados: {row}"
      return names)

end Registry

end ThemeLint
