import ThemeLint.Plugin

set_option autoImplicit false

namespace ThemeLint

def listed (names : List String) : String :=
  let text := ", ".intercalate names
  if text = "" then "<nenhum>" else text

/-- The registry when the server starts to listen. `listen` is what starts it. -/
def Registry.startUp {α : Type} (r : Registry) (executable : String) (entryPoints : List EntryPoint)
    (listen : Traced α) : Registry × Traced α :=
  let (next, loaded) := r.loadPlugins entryPoints
  (next, do
    Traced.info "Iniciando Liquid Language Server..."
    Traced.info s!"Python executable: {executable}"
    let _ ← loaded
    Traced.info s!"Checks registrados: {listed next.names}"
    listen)

end ThemeLint
