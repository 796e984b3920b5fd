import ThemeLint.Session

set_option autoImplicit false

namespace ThemeLint

namespace Session

def handle (s : Session) (method : Method) (params : Json) : Session × Traced Json :=
  let (next, payload) := s.dispatch (.str method.name) .null params
  (next, do (← payload).emit)

def handleNamed (s : Session) (method params : Json) : Session × Traced Json :=
  match Method.ofJson? method with
  | none =>
    (s, do
      let words ← Traced.ofExcept (method.spelt Json.quoted)
      Traced.fail (.noSuchMethod words))
  | some m => s.handle m params

def documentParams (uri : Json) : Json := .obj [("textDocument", .obj [("uri", uri)])]

def recordOf (start : String) (uri : Json) : Except Failure (Option String) :=
  (uri.spelt Json.text).map fun words => some (start ++ words)

/-- A call of the client that is given nothing back. It is logged first where there is a record of it,
and comes no further where the record cannot be written. -/
def serve (s : Session) (record : Except Failure (Option String)) (method : Method)
    (params : Json) : Session × Traced Unit :=
  match record with
  | .error failure => (s, Traced.fail failure)
  | .ok record =>
    let (next, returned) := s.handle method params
    (next, do
      if let some text := record then Traced.info text
      let _ ← returned)

def onInitialized (s : Session) : Session × Traced Unit :=
  s.serve (.ok none) .initialized (.obj [])

def onShutdown (s : Session) : Session × Traced Unit := s.serve (.ok none) .shutdown (.obj [])

def onOpen (s : Session) (uri : Json) : Session × Traced Unit :=
  s.serve (recordOf "Documento aberto: " uri) .didOpen (documentParams uri)

def onSave (s : Session) (uri : Json) : Session × Traced Unit :=
  s.serve (recordOf "Documento salvo: " uri) .didSave (documentParams uri)

def onChange (s : Session) (uri : Json) : Session × Traced Unit :=
  s.serve (.ok none) .didChange (documentParams uri)

def onClose (s : Session) (uri : Json) : Session × Traced Unit :=
  s.serve (.ok none) .didClose (documentParams uri)

def announce (s : Session) : Session × Traced SyncOptions :=
  let (next, payload) := s.dispatch (.str Method.initializing.name) .null (.obj [])
  (next, do
    match ← payload with
    | .response _ result =>
      Traced.ofExcept (do SyncOptions.ofCapabilities (← result.item "capabilities"))
    | _ => Traced.fail .noSuchAttribute)

end Session

end ThemeLint
