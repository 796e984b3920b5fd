import ThemeLint.Registry
import ThemeLint.ThemeView

set_option autoImplicit false

namespace ThemeLint

namespace Analysis

/-- The failure that a check's own failure becomes. The engine's failures pass unchanged, and one
that cannot be put into words gives way to what keeps it from that. -/
def blame (c : Check) (path : Path) (f : Failure) : Failure :=
  if f.isEngine then f
  else match f.message with
    | .ok _ => .checkFailed c.name path f
    | .error trouble => trouble

def findAll (f : ThemeFile) : List Check → Except Failure (List Finding)
  | [] => .ok []
  | c :: cs => do
    let run := c.analyse f
    if let some failure := run.failure then throw (blame c f.path failure)
    return run.found ++ (← findAll f cs)

def concerns (path : Path) (f : Finding) : Bool := f.path.all (· = path)

/-- A fault of the system or of the bytes is the engine's to report, one of the path itself is not. -/
def readTarget (d : Disk) (path : Path) : Except Failure ThemeFile :=
  match d.textAt path with
  | .ok source => .ok ⟨path, source⟩
  | .error .nulInPath => .error (.read .nulInPath)
  | .error (.unwritablePath fault) => .error (.read (.unwritablePath fault))
  | .error fault => .error (.unreadableTarget path fault)

def inspect (d : Disk) (view : ThemeView) (checks : List Check) (path : Path) :
    Traced (List Finding) := do
  if !view.contains path then
    Traced.debug s!"{path.text} fora do projeto (ignorado ou fora da raiz)"
    return []
  let file ← Traced.ofExcept (readTarget d path)
  let found ← Traced.ofExcept (findAll file checks)
  return found.filter (concerns path)

structure Target where
  path : Path
  label : WideText
  deriving DecidableEq, Repr

def Target.ofPath (p : Path) : Target := ⟨p, p.text⟩

def Target.ofJson : Json → Except Failure Target
  | .str text => .ok ⟨Path.ofText text, text⟩
  | _ => .error .wrongType

/-- Analyses a target with the checks of some names. Whether there is a target at all is asked when
all checks are made; a view without files has nothing to analyse. -/
def run (d : Disk) (r : Registry) (view : ThemeView) (enabled : List String)
    (target : Except Failure Target) : Traced (List Finding) := do
  if view.isEmpty then
    Traced.debug s!"Projeto vazio em {view.root.text}, análise ignorada"
    return []
  let checks ← Traced.ofExcept (r.checksFor enabled)
  let target ← Traced.ofExcept target
  let found ← inspect d view checks target.path
  Traced.debug s!"{found.length} findings para {target.label}"
  return found

end Analysis

end ThemeLint
