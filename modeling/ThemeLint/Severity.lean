import ThemeLint.Json
import ThemeLint.Text.LowerCase

set_option autoImplicit false

namespace ThemeLint

inductive Severity where
  | error
  | suggestion
  | style
  | other
  deriving DecidableEq, Repr

def Severity.name : Severity → String
  | .error => "error"
  | .suggestion => "suggestion"
  | .style => "style"
  | .other => "other"

/-- A severity by its name in letters of either case; whatever is no such name is `other`. -/
def Severity.ofJson (value : Json) : Severity :=
  match (Text.lower value.text).shown with
  | "error" => .error
  | "suggestion" => .suggestion
  | "style" => .style
  | _ => .other

inductive ClientLevel where
  | error
  | warning
  | information
  | hint
  deriving DecidableEq, Repr

def ClientLevel.number : ClientLevel → Nat
  | .error => 1
  | .warning => 2
  | .information => 3
  | .hint => 4

def Severity.clientLevel : Severity → ClientLevel
  | .error => .error
  | .suggestion => .warning
  | .style => .information
  | .other => .hint

end ThemeLint
