import ThemeLint.Text.Lines
import ThemeLint.Text.Wide

/-!
Patterns over whole texts. A star stands for any piece, a question mark for any one character, a
closed bracket set for one character in it or, behind an exclamation mark, for one not in it; an
unclosed bracket and every other character stand for themselves. No character is special to the
text, so a star also crosses slashes.
-/

set_option autoImplicit false

namespace ThemeLint

namespace Glob

/-- A set in brackets: inclusive ranges, or all that lies outside them. -/
structure Bracket where
  negated : Bool
  ranges : List (CodePoint × CodePoint)
  deriving DecidableEq, Repr

def Bracket.contains (b : Bracket) (c : CodePoint) : Bool :=
  b.ranges.any (fun r => r.1.toNat ≤ c.toNat && c.toNat ≤ r.2.toNat) != b.negated

inductive Token where
  | any
  | one
  | bracket (set : Bracket)
  | char (c : CodePoint)
  deriving DecidableEq, Repr

/-- The inside of a bracket cut at the hyphens that make ranges. A hyphen makes none at either end
or within two characters of the range before it. `fresh` counts the characters since the last cut,
`needed` how many a cut wants before it. -/
def cut (needed fresh : Nat) : List CodePoint → List (List CodePoint)
  | [] => [[]]
  | c :: cs =>
    if c = .char '-' ∧ needed ≤ fresh then [] :: cut 2 0 cs
    else match cut needed (fresh + 1) cs with
      | [] => [[c]]
      | p :: ps => (c :: p) :: ps

/-- An empty last piece comes from a hyphen at the end, which is a member. -/
def closeCut : List (List CodePoint) → List (List CodePoint)
  | [] => []
  | [p, []] => [p ++ [.char '-']]
  | p :: ps => p :: closeCut ps

/-- Two neighbouring pieces whose range would run backwards lose its ends and grow together. -/
def mergeBackward : List (List CodePoint) → List (List CodePoint)
  | [] => []
  | p :: ps =>
    match p.getLast?, mergeBackward ps with
    | some a, (b :: q) :: qs => if b.toNat < a.toNat then (p.dropLast ++ q) :: qs else p :: (b :: q) :: qs
    | _, merged => p :: merged

/-- The ranges between the pieces, and their other characters alone; a hyphen with nothing before it
is a member. -/
def rangesOf : List (List CodePoint) → List (CodePoint × CodePoint)
  | [] => []
  | [p] => p.map fun c => (c, c)
  | p :: (b :: q) :: ps =>
    match p.getLast? with
    | some a => p.dropLast.map (fun c => (c, c)) ++ (a, b) :: rangesOf (q :: ps)
    | none => (.char '-', .char '-') :: rangesOf ((b :: q) :: ps)
  | p :: [] :: ps => p.map (fun c => (c, c)) ++ rangesOf ps
termination_by ps => ps.length

def bracketOf (inside : List CodePoint) : Bracket :=
  let needed := if inside.head? = some (.char '!') then 2 else 1
  match mergeBackward (closeCut (cut needed 0 inside)) with
  | (.char '!' :: p) :: ps => ⟨true, rangesOf (p :: ps)⟩
  | ps => ⟨false, rangesOf ps⟩

/-- The inside of the bracket that opens here and what follows it. A closing bracket right behind
the opening one, or behind its exclamation mark, is a member. -/
def bracketAt? (cs : List CodePoint) : Option (List CodePoint × List CodePoint) :=
  let lead :=
    match cs with
    | .char '!' :: .char ']' :: _ => 2
    | .char '!' :: _ => 1
    | .char ']' :: _ => 1
    | _ => 0
  let tail := cs.drop lead
  let inside := tail.takeWhile (· ≠ .char ']')
  match tail.drop inside.length with
  | [] => none
  | _ :: rest => some (cs.take lead ++ inside, rest)

theorem length_bracketAt? {cs inside rest : List CodePoint} (h : bracketAt? cs = some (inside, rest)) :
    rest.length ≤ cs.length := by
  unfold bracketAt? at h
  simp only at h
  split at h
  · simp at h
  · next heq =>
    simp only [Option.some.injEq, Prod.mk.injEq] at h
    obtain ⟨-, rfl⟩ := h
    have := congrArg List.length heq
    simp only [List.length_drop, List.length_cons] at this
    omega

def tokens : List CodePoint → List Token
  | [] => []
  | .char '*' :: cs => .any :: tokens cs
  | .char '?' :: cs => .one :: tokens cs
  | .char '[' :: cs =>
    match _h : bracketAt? cs with
    | some (inside, rest) => .bracket (bracketOf inside) :: tokens rest
    | none => .char (.char '[') :: tokens cs
  | c :: cs => .char c :: tokens cs
termination_by cs => cs.length
decreasing_by
  · simp
  · simp
  · have := length_bracketAt? _h
    simp only [List.length_cons]
    omega
  · simp
  · simp

def ends : List CodePoint → List (List CodePoint)
  | [] => [[]]
  | c :: s => (c :: s) :: ends s

theorem mem_ends_iff (s t : List CodePoint) : t ∈ ends s ↔ t <:+ s := by
  induction s with
  | nil => simp [ends]
  | cons c s ih => simp [ends, ih, List.suffix_cons_iff]

/-- The texts left to read after a token, given those left before it, the longest first. Since they
are all ends of one text, after a star it is enough to look at the longest. -/
def Token.advance : Token → List (List CodePoint) → List (List CodePoint)
  | .any, [] => []
  | .any, s :: _ => ends s
  | .one, ss => ss.filterMap fun
    | [] => none
    | _ :: s => some s
  | .bracket set, ss => ss.filterMap fun
    | [] => none
    | c :: s => if set.contains c then some s else none
  | .char a, ss => ss.filterMap fun
    | [] => none
    | c :: s => if c = a then some s else none

end Glob

def globMatches (pattern text : WideText) : Bool :=
  ((Glob.tokens pattern.points).foldl (fun ss t => t.advance ss) [text.points]).any (·.isEmpty)

end ThemeLint
