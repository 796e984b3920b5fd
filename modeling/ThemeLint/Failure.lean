import ThemeLint.Disk
import ThemeLint.Json
import ThemeLint.Uri.Host
import ThemeLint.Yaml.Value

/-!
Why a request fails. A failure keeps its cause as data; its kind is computed, and so is its text,
which not every failure from outside of the server has.
-/

set_option autoImplicit false

namespace ThemeLint

inductive ConfigFault where
  | unreadable (fault : FileFault)
  | malformed
  | notMapping
  | rootNotText
  | ignoreNotTexts
  | sectionNotMapping (name : WideText)
  | other (reason : String)
  deriving DecidableEq, Repr

def ConfigFault.message : ConfigFault → String
  | .unreadable fault => fault.message
  | .malformed => "<yaml>"
  | .notMapping => "conteúdo deve ser um mapeamento YAML"
  | .rootNotText => "'root' deve ser uma string"
  | .ignoreNotTexts => "'ignore' deve ser uma lista de strings"
  | .sectionNotMapping name => s!"seção '{name}' deve ser um mapeamento"
  | .other reason => reason

inductive FailureKind where
  | config
  | engine
  | unknownMethod
  | system (refusal : Option Refusal)
  | undecodable
  | unencodable
  | malformedYaml
  | value
  | key
  | index
  | type
  | attribute
  | overflow
  | recursion
  | runtime
  | notImplemented
  | other (className : String)
  deriving DecidableEq, Repr

/-- The kinds of failures that code outside of the server raises on its own. -/
inductive OwnKind where
  | runtime
  | value
  | key
  | system
  | other (className : String)
  deriving DecidableEq, Repr

inductive Failure where
  | config (path : Option Path) (fault : ConfigFault)
  | engine (message : String)
  | unreadableTarget (path : Path) (cause : ReadFault)
  | checkFailed (check : String) (path : Path) (cause : Failure)
  | unregistered (name : String)
  | unknownMethod (method : String)
  | read (fault : ReadFault)
  | uri (fault : Uri.Fault)
  | yaml (fault : Yaml.Fault)
  | notBelow (path base : Path)
  | linkLoop (path : Path)
  /-- A path has fewer directories above it than this. -/
  | noParent (level : Nat)
  | nameTaken (name : String)
  | noSuchMethod (method : String)
  | outOfRange (field : String) (value : Json)
  | missingKey (key : String)
  | wrongType
  | noSuchAttribute
  | notIterable
  | notImplemented
  | tooLongToWrite
  | own (kind : OwnKind) (words : Json)
  /-- Code outside of the server raises what has no text: asking for it meets another failure. -/
  | mute (kind : FailureKind) (trouble : Failure)

def ReadFault.kind : ReadFault → FailureKind
  | .file fault => .system (some fault.refusal)
  | .unwritablePath _ => .unencodable
  | .nulInPath => .value
  | .notUtf8 _ => .undecodable

def Yaml.Fault.kind : Yaml.Fault → FailureKind
  | .meaningless => .malformedYaml
  | .badInteger _ _ | .tooManyDigits _ | .badDecimal _ | .calendar _ | .tooLongToWrite
  | .noSuchCharacter => .value
  | .noDigits => .index
  | .notTruth _ => .key
  | .notTimestamp => .attribute
  | .timestampOfMapping => .type
  | .tooLarge | .codeTooLarge => .overflow
  | .tooDeep => .recursion

def OwnKind.kind : OwnKind → FailureKind
  | .runtime => .runtime
  | .value => .value
  | .key => .key
  | .system => .system none
  | .other className => .other className

def Json.spelt (spelling : Json → String) (v : Json) : Except Failure String :=
  if v.isWritable then .ok (spelling v) else .error .tooLongToWrite

namespace Failure

def kind : Failure → FailureKind
  | .config _ _ => .config
  | .engine _ | .unreadableTarget _ _ | .checkFailed _ _ _ | .unregistered _ => .engine
  | .unknownMethod _ => .unknownMethod
  | .read fault => fault.kind
  | .uri _ | .notBelow _ _ | .nameTaken _ | .noSuchMethod _ | .outOfRange _ _ | .tooLongToWrite =>
    .value
  | .yaml fault => fault.kind
  | .linkLoop _ => .runtime
  | .noParent _ => .index
  | .missingKey _ => .key
  | .wrongType | .notIterable => .type
  | .noSuchAttribute => .attribute
  | .notImplemented => .notImplemented
  | .own k _ => k.kind
  | .mute k _ => k

/-- The kind of the failure that another one was raised for. -/
def cause? : Failure → Option FailureKind
  | .config _ (.unreadable fault) => some (.system (some fault.refusal))
  | .config _ .malformed => some .malformedYaml
  | .unreadableTarget _ cause => some cause.kind
  | .checkFailed _ _ cause => some cause.kind
  | _ => none

/-- The text of a failure, or what the attempt to write it fails for. -/
def message : Failure → Except Failure String
  | .config path fault =>
    let place := (path.map Path.text).getD (WideText.ofString "<desconhecido>")
    .ok s!"Configuração inválida em {place}: {fault.message}"
  | .engine message => .ok message
  | .unreadableTarget path cause => .ok s!"Não foi possível ler {path.text}: {cause.message}"
  | .checkFailed check path cause => do
    let words ← cause.message
    return s!"Check {check} falhou em {path.text}: {words}"
  | .unregistered name => .ok s!"Check não registrado: {name}"
  | .unknownMethod method => .ok s!"Método não suportado: {method}"
  | .read fault => .ok fault.message
  | .uri fault => .ok fault.message
  | .yaml fault => .ok fault.message
  | .notBelow path base =>
    .ok (s!"{Text.quoted path.text} is not in the subpath of {Text.quoted base.rawText}" ++
      " OR one path is relative and the other is absolute.")
  | .linkLoop path => .ok s!"Symlink loop from {Text.quoted path.text}"
  | .noParent level => .ok (toString level)
  | .nameTaken name => .ok s!"Check já registrado: {name}"
  | .noSuchMethod method => .ok s!"{method} is not a valid Method"
  -- Raised while its text is put together, so a number too long to be written takes its place.
  | .outOfRange field value =>
    .ok (if value.isWritable then
      s!"{field} should be in range [0:2147483647], but was {value.text}."
    else Yaml.Fault.tooLongToWrite.message)
  | .missingKey key => .ok (Text.quoted key)
  | .wrongType => .ok "wrong type"
  | .noSuchAttribute => .ok "no such attribute"
  | .notIterable => .ok "'NoneType' object is not iterable"
  | .notImplemented => .ok ""
  | .tooLongToWrite => .ok Yaml.Fault.tooLongToWrite.message
  | .own .key words => words.spelt Json.quoted
  | .own _ words => words.spelt Json.text
  | .mute _ trouble => .error trouble

def isEngine (f : Failure) : Bool := f.kind = .engine

end Failure

def Json.item (key : String) : Json → Except Failure Json
  | .obj members =>
    match members.lookup key with
    | some v => .ok v
    | none => .error (.missingKey key)
  | _ => .error .wrongType

end ThemeLint
