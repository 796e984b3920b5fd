import ThemeLint.Json

set_option autoImplicit false

namespace ThemeLint

inductive Method where
  | initializing
  | initialized
  | shutdown
  | exit
  | didOpen
  | didChange
  | didSave
  | didClose
  deriving DecidableEq, Repr

namespace Method

def name : Method → String
  | .initializing => "initialize"
  | .initialized => "initialized"
  | .shutdown => "shutdown"
  | .exit => "exit"
  | .didOpen => "textDocument/didOpen"
  | .didChange => "textDocument/didChange"
  | .didSave => "textDocument/didSave"
  | .didClose => "textDocument/didClose"

def all : List Method :=
  [.initializing, .initialized, .shutdown, .exit, .didOpen, .didChange, .didSave, .didClose]

def ofJson? : Json → Option Method
  | .str name => all.find? fun m => m.name = name
  | _ => none

theorem ofJson?_name (m : Method) : ofJson? (.str m.name) = some m := by cases m <;> decide

def diagnoses : Method → Bool
  | .didOpen | .didSave => true
  | _ => false

end Method

end ThemeLint
