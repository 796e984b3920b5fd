import ThemeLint.Check

set_option autoImplicit false

namespace ThemeLint

inductive Subject where
  | nothing
  | sameFile
  | file (path : Path)
  deriving DecidableEq, Repr

inductive Action where
  /-- An offense at the first place of a text in each line that holds it. -/
  | find (text : String) (message : Json)
  | measure
  /-- A finding as written, under the check's name unless it has a code. -/
  | report (code : Option Json) (finding : Finding) (subject : Subject)
  | fail (failure : Failure)

abbrev Script := List Action

namespace Action

def placeOf? (needle : List Char) : List Char → Option Nat
  | [] => if needle = [] then some 0 else none
  | c :: cs =>
    if needle.isPrefixOf (c :: cs) then some 0 else (placeOf? needle cs).map (· + 1)

def hits (text : String) (lines : List String) : List (Nat × Nat) :=
  lines.zipIdx.filterMap fun (line, n) => (placeOf? text.toList line.toList).map (n, ·)

def run (name : String) (severity : Json) (f : ThemeFile) : Action → CheckRun
  | .find text message =>
    ⟨(hits text f.lines).map fun (line, column) =>
      offense name severity f message (line, column) (line, column + text.length), none⟩
  | .measure =>
    let lines := f.lines
    let last := (lines.getLast?.getD "").length
    let message := s!"{lines.length} lines, {f.source.length} chars"
    ⟨[offense name severity f (.str message) (0, 0) (lines.length - 1, last)], none⟩
  | .report code finding subject =>
    let path := match subject with
      | .nothing => none
      | .sameFile => some f.path
      | .file p => some p
    ⟨[{ finding with code := code.getD (.str name), path := path }], none⟩
  | .fail failure => ⟨[], some failure⟩

end Action

namespace Script

def run (s : Script) : Analyse := fun name severity f =>
  match s with
  | [] => ⟨[], none⟩
  | a :: rest =>
    let r := a.run name severity f
    match r.failure with
    | some _ => r
    | none =>
      let more := run rest name severity f
      ⟨r.found ++ more.found, more.failure⟩

def silent : Analyse := fun _ _ _ => ⟨[], some .notIterable⟩

end Script

end ThemeLint
