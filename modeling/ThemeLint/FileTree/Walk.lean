import ThemeLint.FileTree.Basic
import ThemeLint.Path

/-!
Walking a tree name by name, the way an operating system finds what a path names: every name but
the last must be a directory, links are followed where they stand, and after forty of them the
walk gives up.
-/

set_option autoImplicit false

namespace ThemeLint

inductive WalkFault where
  | missing
  | notDirectory
  | tooManyLinks
  | nameTooLong
  deriving DecidableEq, Repr

def nameLimit : Nat := 255

def linkLimit : Nat := 40

/-- The bytes that a text takes as a name. A half from U+DC80 on stands for a byte by itself. -/
def nameSize (name : WideText) : Nat :=
  name.points.foldl (fun n x => n + match x with
    | .char c => c.utf8Size
    | .half _ => 1) 0

def startsAtRoot (target : WideText) : Bool := target.points.head? == some (.char '/')

/-- The names in the target of a link. A slash at the end asks for a directory, as a dot does. -/
def targetNames (target : WideText) : List WideText :=
  let names := ((Text.pieces (.char '/') target.points).map WideText.mk).filter (!·.isEmpty)
  if target.points.getLast? = some (.char '/') then names ++ [Path.here] else names

namespace FileTree

def walk (t : FileTree) (links : Nat) (loc : Location) :
    List WideText → Except WalkFault Location
  | [] => .ok loc
  | name :: names =>
    if t.get? loc ≠ some .directory then .error .notDirectory
    else if name = Path.here then t.walk links loc names
    else if name = Path.up then t.walk links loc.dropLast names
    else if nameLimit < nameSize name then .error .nameTooLong
    else match t.get? (loc ++ [name]) with
      | none => .error .missing
      | some (.link target) =>
        match links with
        | 0 => .error .tooManyLinks
        | k + 1 =>
          let base := if startsAtRoot target then [] else loc
          t.walk k base (targetNames target ++ names)
      | some _ => t.walk links (loc ++ [name]) names
termination_by names => (links, names.length)

end FileTree

end ThemeLint
