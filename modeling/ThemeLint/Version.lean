import ThemeLint.Failure
import ThemeLint.Text.Blank
import ThemeLint.Text.Lines

set_option autoImplicit false

namespace ThemeLint

namespace Version

def unknown : String := "0.0.0"

def opening : List Char := "version = \x22".toList

def endsLine (s : List Char) : Bool :=
  let blanks := s.takeWhile Text.isBlank
  blanks.contains '\n' || blanks.length = s.length

def stated? (s : List Char) : Option (List Char) :=
  if opening.isPrefixOf s then
    let rest := s.drop opening.length
    let version := rest.takeWhile (· ≠ '\x22')
    match rest.drop version.length with
    | _ :: after => if version ≠ [] ∧ endsLine after then some version else none
    | [] => none
  else none

def find? (atStart : Bool) : List Char → Option (List Char)
  | [] => none
  | c :: s =>
    match if atStart then stated? (c :: s) else none with
    | some version => some version
    | none => find? (c = '\n') s

def ofText (text : String) : String :=
  match find? true text.toList with
  | some version => String.ofList version
  | none => unknown

/-- The project file of a package: beside the directory in which a module of it really lies. -/
def projectFile (d : Disk) (module : Path) : Except Failure Path :=
  let module := d.realPath module
  match d.locate module with
  | .error .tooManyLinks => .error (.linkLoop module)
  | _ =>
    match module.parents[1]? with
    | some dir => .ok (dir.child "pyproject.toml")
    | none => .error (.noParent 1)

/-- The version of the package that a module belongs to. A project file that cannot be read states
none; one that is no text is a fault. -/
def read (d : Disk) (module : Path) : Except Failure String := do
  match d.textAt (← projectFile d module) with
  | .ok text => .ok (ofText text)
  | .error (.file _) => .ok unknown
  | .error fault => .error (.read fault)

end Version

end ThemeLint
