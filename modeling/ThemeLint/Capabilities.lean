import ThemeLint.Failure

set_option autoImplicit false

namespace ThemeLint

def capabilities : Json :=
  .obj [("textDocumentSync", .obj
    [("openClose", .bool true), ("change", .bool false), ("willSave", .bool false),
      ("save", .bool true)])]

inductive ChangeKind where
  | nothing
  | full
  deriving DecidableEq, Repr

def ChangeKind.number : ChangeKind → Nat
  | .nothing => 0
  | .full => 1

structure SyncOptions where
  openClose : Option Bool
  change : ChangeKind
  willSave : Option Bool
  save : Json

namespace SyncOptions

def switch : Json → Except Failure (Option Bool)
  | .null => .ok none
  | .bool b => .ok (some b)
  | _ => .error .wrongType

/-- The options that capabilities speak of. All parts are looked up before any is checked. -/
def ofCapabilities (capabilities : Json) : Except Failure SyncOptions := do
  let sync ← capabilities.item "textDocumentSync"
  let change ← sync.item "change"
  let openClose ← sync.item "openClose"
  let willSave ← sync.item "willSave"
  let save ← sync.item "save"
  return {
    openClose := ← switch openClose
    change := if change.holds then .full else .nothing
    willSave := ← switch willSave
    save := save }

def toJson (o : SyncOptions) : Json :=
  let member (key : String) (value : Json) : List (String × Json) :=
    match value with
    | .null => []
    | value => [(key, value)]
  let switch (value : Option Bool) : Json := (value.map Json.bool).getD .null
  .obj (member "openClose" (switch o.openClose) ++ [("change", .int o.change.number)] ++
    member "willSave" (switch o.willSave) ++ member "save" o.save)

end SyncOptions

end ThemeLint
