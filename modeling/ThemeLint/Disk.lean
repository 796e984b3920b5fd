import ThemeLint.FileTree.Resolve
import ThemeLint.Text.Quoted
import ThemeLint.Text.Utf8

/-!
A disk: a tree of files and the directory from which relative paths start. Asking what a path
names answers "nothing" for most faults on the way; a name or path that is too long is reported
instead.
-/

set_option autoImplicit false

namespace ThemeLint

inductive Refusal where
  | missing
  | notDirectory
  | isDirectory
  | tooManyLinks
  | nameTooLong
  | denied
  deriving DecidableEq, Repr

def Refusal.number : Refusal → Nat
  | .missing => 2
  | .denied => 13
  | .notDirectory => 20
  | .isDirectory => 21
  | .nameTooLong => 36
  | .tooManyLinks => 40

def Refusal.message : Refusal → String
  | .missing => "No such file or directory"
  | .denied => "Permission denied"
  | .notDirectory => "Not a directory"
  | .isDirectory => "Is a directory"
  | .nameTooLong => "File name too long"
  | .tooManyLinks => "Too many levels of symbolic links"

def WalkFault.refusal : WalkFault → Refusal
  | .missing => .missing
  | .notDirectory => .notDirectory
  | .tooManyLinks => .tooManyLinks
  | .nameTooLong => .nameTooLong

structure FileFault where
  refusal : Refusal
  place : WideText
  deriving DecidableEq, Repr

def FileFault.message (f : FileFault) : String :=
  s!"[Errno {f.refusal.number}] {f.refusal.message}: {Text.quoted f.place}"

/-- Why a file gives no text. A path that no bytes stand for, or with a NUL in it, is found out before
the system is asked. -/
inductive ReadFault where
  | file (fault : FileFault)
  | unwritablePath (fault : Text.Utf8.HalfFault)
  | nulInPath
  | notUtf8 (fault : Text.Utf8.Fault)
  deriving DecidableEq, Repr

def ReadFault.message : ReadFault → String
  | .file fault => fault.message
  | .unwritablePath fault => fault.message
  | .nulInPath => "embedded null byte"
  | .notUtf8 fault => fault.message

structure Disk where
  tree : FileTree
  here : Location

namespace Disk

def hasNul (p : Path) : Bool := p.parts.any fun part => part.points.contains (.char '\x00')

/-- What keeps the system from being asked for a path at all. -/
def pathFault? (p : Path) : Option ReadFault :=
  match Text.Utf8.halfFault? p.text.points with
  | some fault => some (.unwritablePath fault)
  | none => if hasNul p then some .nulInPath else none

def isNameable (x : CodePoint) : Bool := Text.Utf8.isEncodable x && x != .char '\x00'

def pathLimit : Nat := 4096

def isTooLong (p : Path) : Bool := pathLimit ≤ nameSize p.text

def locate (d : Disk) (p : Path) : Except WalkFault Location :=
  if isTooLong p then .error .nameTooLong
  else d.tree.walk linkLimit (if p.isAbsolute then [] else d.here) p.parts

/-- The path of the same place without links, which need not exist. -/
def realPath (d : Disk) (p : Path) : Path :=
  let links := (d.tree.entries.filter (·.2.isLink)).length
  let start := if p.isAbsolute then [] else d.here
  Path.normalize ⟨.root, (d.tree.resolve (links + 1) [] start p.parts).place⟩

def nodeAt (d : Disk) (p : Path) : Except WalkFault Node :=
  match d.locate p with
  | .error fault => .error fault
  | .ok loc =>
    match d.tree.get? loc with
    | some node => .ok node
    | none => .error .missing

def isA (d : Disk) (kind : Node → Bool) (p : Path) : Except FileFault Bool :=
  if !p.parts.all (·.points.all isNameable) then .ok false
  else match d.nodeAt p with
    | .ok node => .ok (kind node)
    | .error .nameTooLong => .error ⟨.nameTooLong, p.text⟩
    | .error _ => .ok false

def exists? (d : Disk) (p : Path) : Except FileFault Bool := d.isA (fun _ => true) p

def isDirectory (d : Disk) (p : Path) : Except FileFault Bool := d.isA Node.isDirectory p

def isFile (d : Disk) (p : Path) : Except FileFault Bool := d.isA Node.isFile p

def bytesAt (d : Disk) (p : Path) : Except ReadFault (List UInt8) :=
  let refuse (why : Refusal) : Except ReadFault (List UInt8) := .error (.file ⟨why, p.text⟩)
  match pathFault? p with
  | some fault => .error fault
  | none =>
    match d.nodeAt p with
    | .error fault => refuse fault.refusal
    | .ok (.file content) => .ok content
    | .ok .locked => refuse .denied
    | .ok .directory => refuse .isDirectory
    | .ok (.link _) => refuse .tooManyLinks

def textAt (d : Disk) (p : Path) : Except ReadFault String :=
  match d.bytesAt p with
  | .error fault => .error fault
  | .ok bytes =>
    match Text.Utf8.decode bytes with
    | .error fault => .error (.notUtf8 fault)
    | .ok chars => .ok (String.ofList (Text.unifyLineEnds chars))

structure Entry where
  dir : Location
  name : WideText
  deriving DecidableEq, Repr

/-- Where a file of some name is kept: behind the links that stand under the name. -/
def keptAt (t : FileTree) (links : Nat) (e : Entry) : Option Entry :=
  match t.get? (e.dir ++ [e.name]) with
  | some (.link target) =>
    match links, (targetNames target).getLast? with
    | k + 1, some last =>
      let base := if startsAtRoot target then [] else e.dir
      match t.walk k base (targetNames target).dropLast with
      | .ok dir => if last = Path.here || last = Path.up then none else keptAt t k ⟨dir, last⟩
      | .error _ => none
    | _, _ => none
  | _ => some e

/-- Directories added along the names, links followed; the location they lead to, if they do. -/
def makeDirectories (t : FileTree) (loc : Location) : List WideText → FileTree × Option Location
  | [] => (t, some loc)
  | name :: names =>
    match t.walk linkLimit loc [name] with
    | .ok next => makeDirectories t next names
    | .error _ =>
      match t.get? (loc ++ [name]) with
      | none => makeDirectories (t.add loc name .directory) (loc ++ [name]) names
      | some _ => (t, none)

def replace (t : FileTree) (e : Entry) (node : Node) : FileTree :=
  (t.remove (e.dir ++ [e.name])).add e.dir e.name node

/-- The disk with a node put at a path; missing directories are made. A directory is never emptied
by making it again, a link takes the place of what stood there, and a file is written through
links. -/
def put (d : Disk) (p : Path) (node : Node) : Disk :=
  let start := if p.isAbsolute then [] else d.here
  match node, p.parts.getLast? with
  | .directory, _ | _, none => { d with tree := (makeDirectories d.tree start p.parts).1 }
  | node, some name =>
    match makeDirectories d.tree start p.parts.dropLast with
    | (t, none) => { d with tree := t }
    | (t, some loc) =>
      let entry := match node with
        | .link _ => some ⟨loc, name⟩
        | _ => keptAt t linkLimit ⟨loc, name⟩
      match entry with
      | some e => { d with tree := replace t e node }
      | none => { d with tree := t }

def erase (d : Disk) (p : Path) : Disk :=
  match p.parts.getLast?, d.locate p.parent with
  | some name, .ok loc => { d with tree := d.tree.remove (loc ++ [name]) }
  | _, _ => d

end Disk

end ThemeLint
