import ThemeLint.FileTree.Walk

/-!
The place that names lead to once every link on the way is spelled out. Unlike a walk this never
fails: what is missing is taken as written, and so is the rest behind a link that leads back to
itself.
-/

set_option autoImplicit false

namespace ThemeLint

/-- A place, and whether a link on the way to it led back to itself. -/
structure Resolved where
  place : Location
  looped : Bool
  deriving DecidableEq, Repr

namespace FileTree

/-- `following` are the links that are being spelled out. -/
def resolve (t : FileTree) (depth : Nat) (following : List Location) (loc : Location) :
    List WideText → Resolved
  | [] => ⟨loc, false⟩
  | name :: names =>
    if name = Path.here then t.resolve depth following loc names
    else if name = Path.up then t.resolve depth following loc.dropLast names
    else
      let next := loc ++ [name]
      match t.get? next with
      | some (.link target) =>
        if following.contains next then ⟨next ++ names, true⟩
        else match depth with
          | 0 => ⟨next ++ names, true⟩
          | k + 1 =>
            let base := if startsAtRoot target then [] else loc
            let r := t.resolve k (next :: following) base (targetNames target)
            if r.looped then ⟨r.place ++ names, true⟩
            else t.resolve (k + 1) following r.place names
      | _ => t.resolve depth following next names
termination_by names => (depth, names.length)

end FileTree

end ThemeLint
