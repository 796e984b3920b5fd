import ThemeLint.Analysis
import ThemeLint.Capabilities
import ThemeLint.Method
import ThemeLint.Payload
import ThemeLint.Uri.Document

/-!
A session with one client. The first configuration that can be loaded serves the whole session; a
failed attempt leaves nothing behind. Everything else is read anew for each request.
-/

set_option autoImplicit false

namespace ThemeLint

structure Session where
  disk : Disk
  registry : Registry
  config : Option Config

namespace Session

def loadFor (s : Session) (path : Path) : Traced Config := do
  let root ← Traced.ask (Config.discoverRoot s.disk path)
  Traced.info s!"Raiz do projeto: {root.text}"
  Config.load s.disk s.registry.names root

def resolve (s : Session) (path : Path) : Session × Traced Config :=
  match s.config with
  | some config => (s, pure config)
  | none =>
    let loaded := s.loadFor path
    ({ s with config := loaded.result.toOption }, loaded)

def findingsUnder (s : Session) (config : Config) (path : Path) : Traced (List Finding) := do
  let view ← ThemeView.build s.disk config.root config.ignore
  if view.isEmpty then return []
  Analysis.run s.disk s.registry view config.enabled (.ok (.ofPath path))

def offenses (s : Session) (path : Path) : Session × Traced (List Finding) :=
  let (next, config) := s.resolve path
  (next, do next.findingsUnder (← config) path)

def diagnose (s : Session) (uri : Json) : Session × Traced Payload :=
  match uri with
  | .str uri =>
    match Uri.documentPath uri with
    | .error fault => (s, Traced.fail (.uri fault))
    | .ok path =>
      let (next, findings) := s.offenses (Path.ofText path)
      (next, do
        let diagnostics ← Traced.ofExcept (Diagnostic.ofFindings (← findings))
        return .publish uri diagnostics)
  | _ => (s, Traced.fail .noSuchAttribute)

def documentOf (params : Json) : Except Failure Json := do
  (← params.item "textDocument").item "uri"

def diagnoseIn (s : Session) (params : Json) : Session × Traced Payload :=
  match documentOf params with
  | .error failure => (s, Traced.fail failure)
  | .ok uri => s.diagnose uri

def logOf (start : String) (params : Json) : Traced Payload := do
  let uri ← Traced.ofExcept (documentOf params)
  let words ← Traced.ofExcept (uri.spelt Json.text)
  return .log (.str (start ++ words))

def answer (s : Session) (method : Method) (id params : Json) : Session × Traced Payload :=
  match method with
  | .initializing => (s, pure (.response id (.obj [("capabilities", capabilities)])))
  | .initialized => (s, pure (.log (.str "initialized!")))
  | .shutdown => (s, pure (.log (.str "shutting down")))
  | .exit => (s, pure .exit)
  | .didClose => (s, logOf "Document closed. " params)
  | .didChange => (s, logOf "Did change sent. " params)
  | .didOpen | .didSave => s.diagnoseIn params

def dispatch (s : Session) (method id params : Json) : Session × Traced Payload :=
  match Method.ofJson? method with
  | none =>
    (s, do
      let words ← Traced.ofExcept (method.spelt Json.text)
      Traced.fail (.unknownMethod words))
  | some m => s.answer m id (if params.holds then params else .obj [])

/-- The session after a new client took the place of the old one. -/
def renew (s : Session) : Session := { s with config := none }

end Session

end ThemeLint
