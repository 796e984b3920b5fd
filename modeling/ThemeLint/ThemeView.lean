import ThemeLint.Config
import ThemeLint.Glob

/-!
The files of a theme: what lies below a root, ends like a template or a setting, is a file once
links are followed, and is not left out. Directories behind links are not entered, but the root may
be such a link.
-/

set_option autoImplicit false

namespace ThemeLint

structure ThemeView where
  root : Path
  files : List Path
  deriving DecidableEq, Repr

namespace ThemeView

def isEmpty (v : ThemeView) : Bool := v.files.isEmpty

def contains (v : ThemeView) (p : Path) : Bool := v.files.contains p

def endings : List String := [".liquid", ".json"]

def isIgnored (path root : Path) (patterns : List WideText) : Except Failure Bool :=
  match path.below? root with
  | none => .error (.notBelow path root)
  | some rest => .ok (patterns.any (globMatches · rest.text))

def pick (d : Disk) (root : Path) (patterns : List WideText) :
    List Path → Except Failure (List Path)
  | [] => .ok []
  | p :: ps =>
    match d.isFile p with
    | .error fault => .error (.read (.file fault))
    | .ok false => pick d root patterns ps
    | .ok true => do
      let ignored ← isIgnored p root patterns
      let more ← pick d root patterns ps
      return if ignored then more else p :: more

/-- The text of a path to an entry as a listing of its directory gives it. Even of the directory one
is in, the text of the directory stands in front. -/
def entryText (dir : Path) (name : WideText) : WideText :=
  if dir.text.points.getLast? = some (.char '/') then dir.text ++ name
  else dir.text ++ "/" ++ name

/-- Looks where the links in a directory lead. Of all that can go wrong only a path that is too long
counts. -/
def followLinks (d : Disk) (dir : Path) : List WideText → Except FileFault Unit
  | [] => .ok ()
  | name :: names =>
    match d.nodeAt (dir.child name) with
    | .error .nameTooLong => .error ⟨.nameTooLong, entryText dir name⟩
    | _ => followLinks d dir names

def Ends (ending : String) (name : WideText) : Prop :=
  (WideText.ofString ending).points <:+ name.points

instance (ending : String) (name : WideText) : Decidable (Ends ending name) :=
  inferInstanceAs (Decidable (_ <:+ _))

def listDirectory (d : Disk) (root : Path) (patterns : List WideText) (ending : String)
    (dir : Path) (entries : List (WideText × Node)) : Except Failure (List Path) := do
  if Disk.isTooLong dir then throw (.read (.file ⟨.nameTooLong, dir.text⟩))
  let names := (entries.map Prod.fst).filter (Ends ending ·)
  let files ← pick d root patterns (names.map dir.child)
  let links := (entries.filter (·.2.isLink)).map Prod.fst
  (followLinks d dir links).mapError fun fault => .read (.file fault)
  return files

def directories (t : FileTree) (loc : Location) : List (List WideText × List (WideText × Node)) :=
  let inside := (t.below loc).filter (·.2.isDirectory)
  ([] :: inside.map Prod.fst).map fun names => (names, t.children (loc ++ names))

def list (d : Disk) (root : Path) (patterns : List WideText) (endings : List String) :
    Except Failure (List Path) :=
  match d.locate root with
  | .error _ => .ok []
  | .ok loc => do
    let lists ← endings.mapM fun ending => do
      let lists ← (directories d.tree loc).mapM fun (names, entries) =>
        listDirectory d root patterns ending ⟨root.anchor, root.parts ++ names⟩ entries
      return lists.flatten
    return lists.flatten

/-- The view of a theme, its files in the order of their paths. No directory gives no files. -/
def build (d : Disk) (root : Path) (patterns : List WideText) : Traced ThemeView := do
  if !(← Traced.ask (d.isDirectory root)) then
    Traced.warning s!"Raiz do projeto não existe: {root.text}"
    return ⟨root, []⟩
  let files ← Traced.ofExcept (list d root patterns endings)
  Traced.debug s!"{files.length} arquivos de tema em {root.text}"
  return ⟨root, files.mergeSort Path.le⟩

end ThemeView

end ThemeLint
