import ThemeLint.Finding
import ThemeLint.Text.Lines

set_option autoImplicit false

namespace ThemeLint

structure ThemeFile where
  path : Path
  source : String

def ThemeFile.lines (f : ThemeFile) : List String := Text.lines f.source

structure CheckRun where
  found : List Finding
  failure : Option Failure

abbrev Analyse := (name : String) → (severity : Json) → ThemeFile → CheckRun

abbrev ClassId := Nat

/-- A check class. What it leaves open comes from the first of its ancestors that says it. -/
structure CheckClass where
  title : String
  name : Option String
  severity : Option Json
  ancestors : List ClassId
  analyse : Option Analyse
  trouble : Option Failure

structure Check where
  title : String
  name : String
  severity : Json
  analyse : ThemeFile → CheckRun

def unimplemented : CheckRun := ⟨[], some .notImplemented⟩

def offense (name : String) (severity : Json) (f : ThemeFile) (message : Json)
    (start stop : Nat × Nat) : Finding :=
  { code := .str name, message := message, severity := severity
    startLine := .int start.1, startColumn := .int start.2
    endLine := .int stop.1, endColumn := .int stop.2
    path := some f.path }

structure ClassTable where
  classes : List CheckClass

namespace ClassTable

def get? (t : ClassTable) (id : ClassId) : Option CheckClass := t.classes[id]?

def inherited {α : Type} (t : ClassTable) (own : CheckClass → Option α) (id : ClassId) : Option α :=
  match t.get? id with
  | none => none
  | some c => (c :: c.ancestors.filterMap t.get?).findSome? own

/-- The ancestors of a class that is built on one class alone: that class and its own. -/
def lineage (t : ClassTable) (base : ClassId) : List ClassId :=
  match t.get? base with
  | none => []
  | some c => base :: c.ancestors

def nameOf (t : ClassTable) (id : ClassId) : String :=
  (t.inherited CheckClass.name id).getD ""

def severityOf (t : ClassTable) (id : ClassId) : Json :=
  (t.inherited CheckClass.severity id).getD (.str Severity.suggestion.name)

def titleOf (t : ClassTable) (id : ClassId) : String :=
  ((t.get? id).map CheckClass.title).getD ""

def setName (t : ClassTable) (id : ClassId) (name : String) : ClassTable :=
  ⟨t.classes.modify id fun c => { c with name := some name }⟩

def make (t : ClassTable) (id : ClassId) : Except Failure Check :=
  match t.inherited CheckClass.trouble id with
  | some failure => .error failure
  | none =>
    let name := t.nameOf id
    let severity := t.severityOf id
    .ok ⟨t.titleOf id, name, severity,
      match t.inherited CheckClass.analyse id with
      | some analyse => analyse name severity
      | none => fun _ => unimplemented⟩

end ClassTable

end ThemeLint
