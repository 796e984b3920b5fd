import ThemeLint.Traced

/-!
The configuration of a project. Its root is where the nearest marker stands; the file there says
which directory holds the theme, which files to leave out and which checks to leave alone.
-/

set_option autoImplicit false

namespace ThemeLint

structure Config where
  root : Path
  enabled : List String
  ignore : List WideText
  source : Option Path
  deriving DecidableEq, Repr

namespace Config

def fileName : String := ".theme-check.yml"

def repositoryMark : String := ".git"

def firstWith (d : Disk) (marker : Path) : List Path → Except FileFault (Option Path)
  | [] => .ok none
  | dir :: dirs => do
    if ← d.exists? (dir.join marker) then return some dir
    firstWith d marker dirs

def findRoot (d : Disk) (path : Path) (marker : String) : Except FileFault (Option Path) := do
  let here := if ← d.isDirectory path then [path] else []
  firstWith d (Path.ofText marker) (here ++ path.parents)

/-- The root of the project that a path belongs to. A configuration file at any height comes before
a repository; without either, the path is the root or lies right below it. -/
def discoverRoot (d : Disk) (path : Path) : Except FileFault Path := do
  if let some root ← findRoot d path fileName then return root
  if let some root ← findRoot d path repositoryMark then return root
  return if ← d.isDirectory path then path else path.parent

abbrev Entries := List (Yaml.Scalar × Yaml.Value)

def entriesOf : Yaml.Value → Except ConfigFault Entries
  | .mapping entries => .ok entries
  | .scalar .null => .ok []
  | _ => .error .notMapping

def readEntries (d : Disk) (file : Path) : Except Failure Entries :=
  match d.textAt file with
  | .error (.file fault) => .error (.config file (.unreadable fault))
  | .error fault => .error (.read fault)
  | .ok text =>
    match Yaml.load text with
    | .error .malformed => .error (.config file .malformed)
    | .error (.fault why) => .error (.yaml why)
    | .ok value => (entriesOf value).mapError (.config file)

def rootOf (dir : Path) (entries : Entries) : Except ConfigFault Path :=
  match entries.lookup (.str "root") with
  | none => .ok dir
  | some (.scalar (.str text)) => .ok (dir.join (Path.ofText text)).normalize
  | some _ => .error .rootNotText

def textsOf : List Yaml.Value → Option (List WideText)
  | [] => some []
  | .scalar (.str text) :: values => (textsOf values).map (text :: ·)
  | _ => none

/-- The patterns to leave out; whatever does not hold stands for none. -/
def ignoreOf (entries : Entries) : Except ConfigFault (List WideText) :=
  match entries.lookup (.str "ignore") with
  | none => .ok []
  | some value =>
    if !value.holds then .ok []
    else match value with
      | .list values =>
        match textsOf values with
        | some texts => .ok texts
        | none => .error .ignoreNotTexts
      | _ => .error .ignoreNotTexts

def isReserved (key : Yaml.Scalar) : Bool := key = .str "root" || key = .str "ignore"

def isSection (value : Yaml.Value) : Bool :=
  value.isMapping || match value with
    | .scalar .null => true
    | _ => false

def switchesOff : Yaml.Value → Bool
  | .mapping entries =>
    match entries.lookup (.str "enabled") with
    | some (.scalar (.bool enabled)) => !enabled
    | _ => false
  | _ => false

/-- The checks that the sections of a file switch off. Sections of unknown checks are reported. -/
def switchedOff (file : Path) (known : List String) : Entries → Traced (List String)
  | [] => pure []
  | (key, value) :: rest =>
    if isReserved key then switchedOff file known rest
    else do
      let label ← Traced.ofExcept (key.label.mapError .yaml)
      if !isSection value then Traced.fail (.config file (.sectionNotMapping label))
      else match known.find? fun (name : String) => key = .str name with
        | none =>
          Traced.warning s!"Check desconhecido em {file.text}: {label}"
          switchedOff file known rest
        | some name =>
          let more ← switchedOff file known rest
          return if switchesOff value then name :: more else more

def ofEntries (known : List String) (dir : Path) (source : Option Path) (entries : Entries) :
    Traced Config := do
  let file := dir.child fileName
  let root ← Traced.ofExcept ((rootOf dir entries).mapError (.config file))
  let ignore ← Traced.ofExcept ((ignoreOf entries).mapError (.config file))
  let off ← switchedOff file known entries
  return {
    root := root
    enabled := known.filter (!off.contains ·)
    ignore := ignore
    source := source }

def load (d : Disk) (known : List String) (dir : Path) : Traced Config := do
  let file := dir.child fileName
  if ← Traced.ask (d.isFile file) then
    let entries ← Traced.ofExcept (readEntries d file)
    ofEntries known dir (some file) entries
  else ofEntries known dir none []

end Config

end ThemeLint
