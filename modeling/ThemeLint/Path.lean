import ThemeLint.Text.Lines
import ThemeLint.Text.Quoted

/-!
Paths as text means them, without a look at any file. A path starts nowhere in particular, at `/`
or at `//`, and goes through its parts; empty parts and single dots are dropped on reading, double
dots stay, since what they name depends on links. Two paths are equal when these data are.
-/

set_option autoImplicit false

namespace ThemeLint

/-- Where a path starts. Exactly two leading slashes are kept apart from any other number. -/
inductive Anchor where
  | relative
  | root
  | doubleRoot
  deriving DecidableEq, Repr

def Anchor.text : Anchor → String
  | .relative => ""
  | .root => "/"
  | .doubleRoot => "//"

structure Path where
  anchor : Anchor
  parts : List WideText
  deriving DecidableEq, Repr

namespace Path

def anchorOf : List CodePoint → Anchor
  | .char '/' :: .char '/' :: .char '/' :: _ => .root
  | .char '/' :: .char '/' :: _ => .doubleRoot
  | .char '/' :: _ => .root
  | _ => .relative

def here : WideText := "."

def up : WideText := ".."

def isIdle (part : WideText) : Bool := part.isEmpty || part = here

def partsOf (s : List CodePoint) : List WideText :=
  ((Text.pieces (.char '/') s).map WideText.mk).filter (!isIdle ·)

def ofText (t : WideText) : Path := ⟨anchorOf t.points, partsOf t.points⟩

def rawText (p : Path) : WideText :=
  p.anchor.text ++ ⟨Text.joinPieces (.char '/') (p.parts.map WideText.points)⟩

def text (p : Path) : WideText := if p.rawText.isEmpty then here else p.rawText

def isAbsolute (p : Path) : Bool := p.anchor != .relative

def join (p q : Path) : Path :=
  match q.anchor with
  | .relative => ⟨p.anchor, p.parts ++ q.parts⟩
  | _ => q

def child (p : Path) (name : WideText) : Path := ⟨p.anchor, p.parts ++ [name]⟩

def parent (p : Path) : Path := ⟨p.anchor, p.parts.dropLast⟩

def parents (p : Path) : List Path :=
  (List.range p.parts.length).reverse.map fun n => ⟨p.anchor, p.parts.take n⟩

def below? (p base : Path) : Option Path :=
  if p.anchor = base.anchor ∧ base.parts <+: p.parts then
    some ⟨.relative, p.parts.drop base.parts.length⟩
  else none

theorem below?_child (p : Path) (names : List WideText) :
    (⟨p.anchor, p.parts ++ names⟩ : Path).below? p = some ⟨.relative, names⟩ := by
  simp [below?]

theorem join_parts (p q : Path) (h : q.anchor = .relative) :
    p.join q = ⟨p.anchor, p.parts ++ q.parts⟩ := by
  simp [join, h]

/-- One part of a path taken onto the parts before it, kept in reverse: double dots take back the
part before them, stay in front of a relative path and vanish at a root. -/
def collapseStep (absolute : Bool) (kept : List WideText) (part : WideText) : List WideText :=
  if part = up then
    match kept with
    | [] => if absolute then [] else [up]
    | last :: before => if last = up then up :: kept else before
  else part :: kept

def normalize (p : Path) : Path :=
  ⟨p.anchor, (p.parts.foldl (collapseStep p.isAbsolute) []).reverse⟩

def orderKey (p : Path) : List WideText :=
  match p.anchor with
  | .relative => p.parts
  | a => WideText.ofString a.text :: p.parts

def partsLe : List WideText → List WideText → Bool
  | [], _ => true
  | _ :: _, [] => false
  | a :: as, b :: bs => decide (a < b) || (a == b && partsLe as bs)

def le (p q : Path) : Bool := partsLe p.orderKey q.orderKey

end Path

end ThemeLint
