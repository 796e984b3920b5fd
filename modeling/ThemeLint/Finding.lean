import ThemeLint.Failure
import ThemeLint.Severity

set_option autoImplicit false

namespace ThemeLint

structure Finding where
  code : Json
  message : Json
  severity : Json
  startLine : Json
  startColumn : Json
  endLine : Json
  endColumn : Json
  path : Option Path

def coordinateLimit : Nat := 2147483647

/-- A line or a column that a client accepts. A truth value passes for a number and stays one. -/
inductive Coordinate where
  | number (n : Nat) (inRange : n ≤ coordinateLimit)
  | truth (b : Bool)
  deriving DecidableEq

def Coordinate.toJson : Coordinate → Json
  | .number n _ => .int n
  | .truth b => .bool b

def Coordinate.ofJson (field : String) (value : Json) : Except Failure Coordinate :=
  match value with
  | .bool b => .ok (.truth b)
  | .int n =>
    if h : n.toNat ≤ coordinateLimit then
      if 0 ≤ n then .ok (.number n.toNat h) else .error (.outOfRange field value)
    else .error (.outOfRange field value)
  | _ => .error (.outOfRange field value)

structure Diagnostic where
  startLine : Coordinate
  startCharacter : Coordinate
  endLine : Coordinate
  endCharacter : Coordinate
  message : String
  level : ClientLevel
  code : Json

def diagnosticSource : String := "theme-check"

/-- A diagnostic for a finding; of several faults the first in reading order is reported. -/
def Diagnostic.ofFinding (f : Finding) : Except Failure Diagnostic := do
  let startLine ← Coordinate.ofJson "Position.line" f.startLine
  let startCharacter ← Coordinate.ofJson "Position.character" f.startColumn
  let endLine ← Coordinate.ofJson "Position.line" f.endLine
  let endCharacter ← Coordinate.ofJson "Position.character" f.endColumn
  match f.message with
  | .str message =>
    .ok ⟨startLine, startCharacter, endLine, endCharacter, message,
      (Severity.ofJson f.severity).clientLevel, f.code⟩
  | _ => .error .wrongType

def Diagnostic.ofFindings (fs : List Finding) : Except Failure (List Diagnostic) :=
  fs.mapM Diagnostic.ofFinding

def positionJson (line character : Coordinate) : Json :=
  .obj [("line", line.toJson), ("character", character.toJson)]

def Diagnostic.toJson (d : Diagnostic) : Json :=
  let range := Json.obj
    [("start", positionJson d.startLine d.startCharacter), ("end", positionJson d.endLine d.endCharacter)]
  let code := match d.code with
    | .null => []
    | code => [("code", code)]
  .obj ([("range", range), ("message", .str d.message), ("severity", .int d.level.number)] ++ code ++
    [("source", .str diagnosticSource)])

end ThemeLint
