import ThemeLint.Handlers
import ThemeLint.Plugin

/-!
Whole sessions: what a client asks for, in any order, with changes of the files and of the registry
in between. Each operation is described once, by the path whose project it asks for: it leaves the
session settled on that path, and its result depends on the rest of the session only through the
configuration that the path gets.
-/

set_option autoImplicit false

namespace ThemeLint

structure Message where
  method : Json
  id : Json
  params : Json

/-- A call of the server by the client's transport: of a handler, or past the handlers. -/
inductive Request where
  | handle (method : Method) (params : Json)
  | initialized
  | shutdown
  | opened (uri : Json)
  | saved (uri : Json)
  | changed (uri : Json)
  | closed (uri : Json)

namespace Request

def method : Request → Method
  | handle method _ => method
  | initialized => .initialized
  | shutdown => .shutdown
  | opened _ => .didOpen
  | saved _ => .didSave
  | changed _ => .didChange
  | closed _ => .didClose

def params : Request → Json
  | handle _ params => params
  | initialized | shutdown => .obj []
  | opened uri | saved uri | changed uri | closed uri => Session.documentParams uri

def record? : Request → Except Failure (Option String)
  | opened uri => Session.recordOf "Documento aberto: " uri
  | saved uri => Session.recordOf "Documento salvo: " uri
  | _ => .ok none

end Request

inductive Operation where
  | resolve (path : Path)
  | offenses (path : Path)
  | dispatch (message : Message)
  | announce
  | request (request : Request)
  | write (path : Path) (node : Node)
  | erase (path : Path)
  | register (id : ClassId)
  | unregister (name : String)
  | loadPlugins (entryPoints : List EntryPoint)

def documentPath? (params : Json) : Option Path :=
  match Session.documentOf params with
  | .ok (.str uri) => (Uri.documentPath uri).toOption.map fun (text : String) => Path.ofText text
  | _ => none

def Method.asked? (method : Method) (params : Json) : Option Path :=
  if method.diagnoses then documentPath? params else none

def Message.asked? (m : Message) : Option Path :=
  (Method.ofJson? m.method).bind fun method => method.asked? m.params

/-- The path whose project an operation asks for, if it comes that far. -/
def Operation.asked? : Operation → Option Path
  | .resolve path | .offenses path => some path
  | .dispatch message => message.asked?
  | .request r => r.method.asked? r.params
  | _ => none

namespace Session

def start (disk : Disk) (registry : Registry) : Session := ⟨disk, registry, none⟩

def receive (s : Session) : Request → Session × Traced Unit
  | .handle method params => s.serve (.ok none) method params
  | .initialized => s.onInitialized
  | .shutdown => s.onShutdown
  | .opened uri => s.onOpen uri
  | .saved uri => s.onSave uri
  | .changed uri => s.onChange uri
  | .closed uri => s.onClose uri

def perform (s : Session) : Operation → Session × Traced Unit
  | .resolve path => ((s.resolve path).1, (s.resolve path).2.void)
  | .offenses path => ((s.offenses path).1, (s.offenses path).2.void)
  | .dispatch m =>
    ((s.dispatch m.method m.id m.params).1, (s.dispatch m.method m.id m.params).2.void)
  | .announce => (s.announce.1, s.announce.2.void)
  | .request r => s.receive r
  | .write path node => ({ s with disk := s.disk.put path node }, pure ())
  | .erase path => ({ s with disk := s.disk.erase path }, pure ())
  | .register id =>
    match s.registry.register id with
    | .ok (registry, _) => ({ s with registry := registry }, pure ())
    | .error failure => (s, Traced.fail failure)
  | .unregister name => ({ s with registry := s.registry.unregister name }, pure ())
  | .loadPlugins entryPoints =>
    ({ s with registry := (s.registry.loadPlugins entryPoints).1 },
      (s.registry.loadPlugins entryPoints).2.void)

def run (s : Session) (ops : List Operation) : Session :=
  ops.foldl (fun s op => (s.perform op).1) s

theorem run_append (s : Session) (ops later : List Operation) :
    s.run (ops ++ later) = (s.run ops).run later := List.foldl_append

/-- What is seen at the operations of a run, each in the session it meets. -/
def along {α : Type} (seen : Session → Operation → List α) (s : Session) : List Operation → List α
  | [] => []
  | op :: ops => seen s op ++ along seen (s.perform op).1 ops

theorem along_append {α : Type} (seen : Session → Operation → List α) (s : Session)
    (ops later : List Operation) :
    s.along seen (ops ++ later) = s.along seen ops ++ (s.run ops).along seen later := by
  induction ops generalizing s with
  | nil => rfl
  | cons op ops ih => simp [along, ih, run]

theorem run_snoc (s : Session) (ops : List Operation) (op : Operation) :
    s.run (ops ++ [op]) = ((s.run ops).perform op).1 := run_append s ops [op]

theorem filterMap_along {α β : Type} (f : α → Option β) (seen : Session → Operation → List α)
    (s : Session) (ops : List Operation) :
    (s.along seen ops).filterMap f = s.along (fun s op => (seen s op).filterMap f) ops := by
  induction ops generalizing s with
  | nil => rfl
  | cons op ops ih => simp [along, ih]

theorem along_eq_nil_iff {α : Type} (seen : Session → Operation → List α) (s : Session)
    (ops : List Operation) :
    s.along seen ops = [] ↔
      ∀ before op later, ops = before ++ op :: later → seen (s.run before) op = [] := by
  induction ops generalizing s with
  | nil => simp [along]
  | cons op ops ih =>
    rw [along, List.append_eq_nil_iff, ih]
    constructor
    · intro h before op' later heq
      obtain ⟨hop, hops⟩ := h
      cases before with
      | nil =>
        obtain ⟨rfl, rfl⟩ := List.cons.inj heq
        exact hop
      | cons first before =>
        obtain ⟨rfl, rfl⟩ := List.cons.inj heq
        exact hops before op' later rfl
    · intro h
      refine ⟨h [] op ops rfl, ?_⟩
      intro before op' later heq
      subst heq
      exact h (op :: before) op' later rfl

theorem getLast?_along_eq_some_iff {α : Type} (seen : Session → Operation → List α) (s : Session)
    (ops : List Operation) (a : α) :
    (s.along seen ops).getLast? = some a ↔
      ∃ before op later, ops = before ++ op :: later ∧
        (seen (s.run before) op).getLast? = some a ∧
        (s.run (before ++ [op])).along seen later = [] := by
  induction ops generalizing s with
  | nil => simp [along]
  | cons op ops ih =>
    rw [along, List.getLast?_append]
    cases hlast : (along seen (s.perform op).1 ops).getLast? with
    | some b =>
      rw [Option.some_or]
      constructor
      · intro heq
        obtain ⟨rfl⟩ := heq
        obtain ⟨before, op', later, rfl, hseen, hnone⟩ := (ih (s.perform op).1).1 hlast
        exact ⟨op :: before, op', later, rfl, hseen, hnone⟩
      · intro h
        obtain ⟨before, op', later, heq, hseen, hnone⟩ := h
        cases before with
        | nil =>
          obtain ⟨rfl, rfl⟩ := List.cons.inj heq
          rw [show (s.perform op).1 = s.run ([] ++ [op]) from rfl, hnone] at hlast
          cases hlast
        | cons first before =>
          obtain ⟨rfl, rfl⟩ := List.cons.inj heq
          rw [← hlast]
          exact (ih _).2 ⟨before, op', later, rfl, hseen, hnone⟩
    | none =>
      rw [Option.none_or]
      constructor
      · intro hseen
        exact ⟨[], op, ops, rfl, hseen, List.getLast?_eq_none_iff.1 hlast⟩
      · intro h
        obtain ⟨before, op', later, heq, hseen, hnone⟩ := h
        cases before with
        | nil =>
          obtain ⟨rfl, rfl⟩ := List.cons.inj heq
          exact hseen
        | cons first before =>
          obtain ⟨rfl, rfl⟩ := List.cons.inj heq
          have h := (ih (s.perform op).1).2 ⟨before, op', later, rfl, hseen, hnone⟩
          rw [hlast] at h
          cases h

def configFor (s : Session) (path : Path) : Except Failure Config :=
  match s.config with
  | some config => .ok config
  | none => (s.loadFor path).result

def settle (s : Session) (path : Path) : Session :=
  { s with config := (s.configFor path).toOption }

theorem loadFor_eq_ok_iff (s : Session) (path : Path) (config : Config) :
    (s.loadFor path).result = .ok config ↔
      ∃ root, Config.discoverRoot s.disk path = .ok root ∧
        (Config.load s.disk s.registry.names root).result = .ok config := by
  unfold loadFor Traced.ask
  rw [Traced.result_bind, Traced.result_ofExcept]
  cases h : Config.discoverRoot s.disk path with
  | error fault => simp [Except.bind]
  | ok root =>
    simp only [Traced.mapError_ok, Except.bind, Traced.result_bind]
    simp [Traced.info, Traced.leave]

theorem resolve_eq (s : Session) (path : Path) :
    (s.resolve path).1 = s.settle path ∧ (s.resolve path).2.result = s.configFor path := by
  obtain ⟨disk, registry, config⟩ := s
  cases config with
  | none => exact ⟨rfl, rfl⟩
  | some config => exact ⟨rfl, rfl⟩

theorem offenses_fst (s : Session) (path : Path) : (s.offenses path).1 = s.settle path :=
  (s.resolve_eq path).1

theorem offenses_result (s : Session) (path : Path) :
    (s.offenses path).2.result =
      (s.configFor path).bind fun config => (s.findingsUnder config path).result := by
  have h := s.resolve_eq path
  simp only [offenses, Traced.result_bind, h.1, h.2]
  rfl

def diagnosticsOf (s : Session) (uri : String) : Except Failure (List Diagnostic) :=
  match Uri.documentPath uri with
  | .error fault => .error (.uri fault)
  | .ok text => (s.offenses (Path.ofText text)).2.result.bind Diagnostic.ofFindings

theorem diagnose_result (s : Session) (uri : String) :
    (s.diagnose (.str uri)).2.result = (s.diagnosticsOf uri).map (Payload.publish uri) := by
  unfold diagnose diagnosticsOf
  cases h : Uri.documentPath uri with
  | error fault => simp [h, Except.map]
  | ok text =>
    simp only [h, Traced.result_bind]
    cases (s.offenses (Path.ofText text)).2.result with
    | error failure => rfl
    | ok found =>
      simp only [Except.bind, Traced.result_ofExcept]
      cases Diagnostic.ofFindings found <;> rfl

theorem diagnoseIn_result (s : Session) (params : Json) :
    (s.diagnoseIn params).2.result = (documentOf params).bind fun
      | .str uri => (s.diagnosticsOf uri).map (Payload.publish uri)
      | _ => .error .noSuchAttribute := by
  unfold diagnoseIn
  cases h : documentOf params with
  | error failure => rfl
  | ok uri =>
    cases uri with
    | str uri => exact s.diagnose_result uri
    | _ => rfl

theorem diagnoseIn_fst (s : Session) (params : Json) :
    (s.diagnoseIn params).1 = (documentPath? params).elim s s.settle := by
  unfold diagnoseIn documentPath?
  cases h : documentOf params with
  | error failure => rfl
  | ok uri =>
    cases uri with
    | str uri =>
      cases hp : Uri.documentPath uri with
      | error fault => simp [diagnose, hp, Except.toOption]
      | ok text => simp [diagnose, hp, Except.toOption, offenses_fst]
    | _ => rfl

theorem documentPath?_eq_some_iff (params : Json) (path : Path) :
    documentPath? params = some path ↔ ∃ uri text, documentOf params = .ok (.str uri) ∧
      Uri.documentPath uri = .ok text ∧ Path.ofText text = path := by
  unfold documentPath?
  constructor
  · intro h
    split at h
    next uri hd =>
      cases hp : Uri.documentPath uri with
      | error fault => simp [hp, Except.toOption] at h
      | ok text =>
        simp only [hp, Except.toOption, Option.map_some, Option.some.injEq] at h
        exact ⟨uri, text, hd, hp, h⟩
    next => cases h
  · intro h
    obtain ⟨uri, text, hd, hp, rfl⟩ := h
    simp [hd, hp, Except.toOption]

theorem answer_fst (s : Session) (method : Method) (id params : Json) :
    (s.answer method id params).1 = (method.asked? params).elim s s.settle := by
  cases method with
  | didOpen => exact s.diagnoseIn_fst params
  | didSave => exact s.diagnoseIn_fst params
  | _ => rfl

theorem answer_of_diagnoses (s : Session) {method : Method} (h : method.diagnoses = true)
    (id params : Json) : s.answer method id params = s.diagnoseIn params := by
  cases method with
  | didOpen => rfl
  | didSave => rfl
  | _ => cases h

theorem answer_of_not_diagnoses {method : Method} (h : method.diagnoses = false)
    (id params : Json) : ∃ payload, ∀ s : Session, s.answer method id params = (s, payload) := by
  cases method with
  | didOpen => cases h
  | didSave => cases h
  | _ => exact ⟨_, fun _ => rfl⟩

theorem documentPath?_given (params : Json) :
    documentPath? (if params.holds then params else .obj []) = documentPath? params := by
  by_cases h : params.holds = true
  · rw [if_pos h]
  · rw [if_neg h]
    cases params with
    | obj members => simp_all [Json.holds]
    | _ => rfl

theorem asked?_given (method : Method) (params : Json) :
    method.asked? (if params.holds then params else .obj []) = method.asked? params := by
  unfold Method.asked?
  rw [documentPath?_given]

theorem dispatch_fst (s : Session) (m : Message) :
    (s.dispatch m.method m.id m.params).1 = m.asked?.elim s s.settle := by
  unfold dispatch Message.asked?
  cases h : Method.ofJson? m.method with
  | none => rfl
  | some method =>
    simp only [Option.bind_some]
    rw [answer_fst, asked?_given]

theorem dispatch_name (s : Session) (method : Method) (id params : Json) :
    s.dispatch (.str method.name) id params =
      s.answer method id (if params.holds then params else .obj []) := by
  simp only [dispatch, Method.ofJson?_name]

theorem handle_fst (s : Session) (method : Method) (params : Json) :
    (s.handle method params).1 = (method.asked? params).elim s s.settle := by
  simp only [handle, dispatch_name]
  rw [answer_fst, asked?_given]

theorem receive_eq (s : Session) (r : Request) :
    s.receive r = s.serve r.record? r.method r.params := by
  cases r <;> rfl

theorem recordOf_eq_error {start : String} {uri : Json} {failure : Failure}
    (h : recordOf start uri = .error failure) :
    failure = .tooLongToWrite ∧ documentPath? (documentParams uri) = none := by
  cases hwritable : uri.isWritable with
  | true => simp [recordOf, Json.spelt, hwritable, Except.map] at h
  | false =>
    simp only [recordOf, Json.spelt, hwritable, Bool.false_eq_true, if_false, Except.map,
      Except.error.injEq] at h
    refine ⟨h.symm, ?_⟩
    cases uri with
    | str text => cases hwritable
    | _ => rfl

theorem record?_eq_error {r : Request} {failure : Failure} (h : r.record? = .error failure) :
    failure = .tooLongToWrite ∧ r.method.asked? r.params = none := by
  cases r with
  | opened uri => exact recordOf_eq_error h
  | saved uri => exact recordOf_eq_error h
  | _ => cases h

/-- A request is logged and handled, unless it is about no document and its record is too long. -/
theorem receive_cases (s : Session) (r : Request) :
    (r.method.asked? r.params = none ∧ s.receive r = (s, Traced.fail .tooLongToWrite)) ∨
    ((s.receive r).1 = (s.handle r.method r.params).1 ∧
      (s.receive r).2.result = (s.handle r.method r.params).2.result.map (fun _ => ()) ∧
      (s.receive r).2.calls = (s.handle r.method r.params).2.calls) := by
  rw [receive_eq]
  cases hrecord : r.record? with
  | error failure =>
    obtain ⟨rfl, hasked⟩ := record?_eq_error hrecord
    exact .inl ⟨hasked, rfl⟩
  | ok record =>
    refine .inr ⟨rfl, ?_⟩
    cases record with
    | none => exact ⟨Traced.result_void _, Traced.calls_void _⟩
    | some text =>
      simp only [serve]
      rw [Traced.result_bind, Traced.calls_bind]
      exact ⟨Traced.result_void _, Traced.calls_void _⟩

theorem receive_fst (s : Session) (r : Request) :
    (s.receive r).1 = (r.method.asked? r.params).elim s s.settle := by
  rcases s.receive_cases r with ⟨hasked, hreceive⟩ | ⟨hnext, -⟩
  · rw [hreceive, hasked]
    rfl
  · rw [hnext, handle_fst]

theorem announce_fst (s : Session) : s.announce.1 = s := by
  simp only [announce, dispatch_name]
  rfl

theorem settle_config (s : Session) (path : Path) :
    (s.settle path).config = s.config.or (s.loadFor path).result.toOption := by
  unfold settle configFor
  cases s.config <;> rfl

/-- What one operation does to the configuration: it stays where there is one, and is that of the
path asked for otherwise. -/
theorem perform_config (s : Session) (op : Operation) :
    (s.perform op).1.config =
      s.config.or (op.asked?.bind fun path => (s.loadFor path).result.toOption) := by
  -- The four operations that ask for a path all come down to settling it.
  have asked (x : Option Path) : (x.elim s s.settle).config =
      s.config.or (x.bind fun path => (s.loadFor path).result.toOption) := by
    cases x with
    | none => simp
    | some path => exact s.settle_config path
  cases op with
  | resolve path => rw [← asked]; exact congrArg config (s.resolve_eq path).1
  | offenses path => rw [← asked]; exact congrArg config (s.offenses_fst path)
  | dispatch m => rw [← asked]; exact congrArg config (s.dispatch_fst m)
  | request r => rw [← asked]; exact congrArg config (s.receive_fst r)
  | announce => simp [perform, announce_fst, Operation.asked?]
  | register id =>
    simp only [perform, Operation.asked?]
    cases s.registry.register id <;> simp
  | write path node => simp [perform, Operation.asked?]
  | erase path => simp [perform, Operation.asked?]
  | unregister name => simp [perform, Operation.asked?]
  | loadPlugins entryPoints => simp [perform, Operation.asked?]

theorem loadFor_of_perform {s : Session} {op : Operation} {config : Config}
    (hnone : s.config = none) (h : (s.perform op).1.config = some config) :
    ∃ path, op.asked? = some path ∧ (s.loadFor path).result = .ok config := by
  rw [perform_config, hnone, Option.none_or] at h
  obtain ⟨path, hpath, hload⟩ := Option.bind_eq_some_iff.1 h
  refine ⟨path, hpath, ?_⟩
  cases hresult : (s.loadFor path).result with
  | error failure =>
    rw [hresult] at hload
    cases hload
  | ok loaded =>
    rw [hresult] at hload
    rw [Option.some.inj hload]

end Session

end ThemeLint
