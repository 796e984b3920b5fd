import ThemeLint.Finding
import ThemeLint.Traced

set_option autoImplicit false

namespace ThemeLint

inductive Payload where
  | response (id result : Json)
  | notification (method params : Json)
  | log (message : Json)
  | exit

def publishMethod : String := "textDocument/publishDiagnostics"

namespace Payload

def publish (uri : String) (diagnostics : List Diagnostic) : Payload :=
  .notification (.str publishMethod)
    (.obj [("uri", .str uri), ("diagnostics", .arr (diagnostics.map Diagnostic.toJson))])

def publishes : Json → Bool
  | .str method => method = publishMethod
  | _ => false

/-- Brings the diagnostics in a notification to the client. They are counted before the document is
looked up. -/
def emitDiagnostics (params : Json) : Traced Unit := do
  let diagnostics ← Traced.ofExcept (params.item "diagnostics")
  match diagnostics.size? with
  | none => Traced.fail .wrongType
  | some count =>
    let uri ← Traced.ofExcept (params.item "uri")
    let words ← Traced.ofExcept (uri.spelt Json.text)
    Traced.debug s!"Publicando {count} diagnósticos para {words}"
    Traced.call (.publish uri diagnostics)

def emit : Payload → Traced Json
  | .response _ result => return result
  | .notification method params => do
    if publishes method then emitDiagnostics params
    else Traced.call (.send method params)
    return .null
  | .log message => do
    Traced.info message.text
    Traced.call (.showLog message)
    return .null
  | .exit => do
    Traced.info "Encerramento solicitado pelo cliente"
    return .null

end Payload

end ThemeLint
