import ThemeLint.Proofs.Memo

set_option autoImplicit false

namespace ThemeLint

open Traced

theorem Config.isQuiet_switchedOff (file : Path) (known : List String) (entries : Entries) :
    (switchedOff file known entries).IsQuiet := by
  induction entries with
  | nil => exact isQuiet_pure _
  | cons entry rest ih =>
    obtain ⟨key, value⟩ := entry
    unfold switchedOff
    split
    · exact ih
    · refine (isQuiet_ofExcept _).bind fun label => ?_
      split
      · exact isQuiet_fail _
      · split
        · exact (isQuiet_warning _).bind fun _ => ih
        · exact ih.bind fun more => by split <;> exact isQuiet_pure _

theorem Config.isQuiet_ofEntries (known : List String) (dir : Path) (source : Option Path)
    (entries : Entries) : (ofEntries known dir source entries).IsQuiet :=
  (isQuiet_ofExcept _).bind fun _ => (isQuiet_ofExcept _).bind fun _ =>
    (isQuiet_switchedOff _ _ _).bind fun _ => isQuiet_pure _

theorem Config.isQuiet_load (d : Disk) (known : List String) (dir : Path) :
    (load d known dir).IsQuiet := by
  unfold load
  refine (isQuiet_ask _).bind fun present => ?_
  split
  · exact (isQuiet_ofExcept _).bind fun entries => isQuiet_ofEntries _ _ _ entries
  · exact isQuiet_ofEntries _ _ _ _

theorem ThemeView.isQuiet_build (d : Disk) (root : Path) (patterns : List WideText) :
    (build d root patterns).IsQuiet := by
  unfold build
  refine (isQuiet_ask _).bind fun present => ?_
  split
  · exact (isQuiet_warning _).bind fun _ => isQuiet_pure _
  · exact (isQuiet_ofExcept _).bind fun files => (isQuiet_debug _).bind fun _ => isQuiet_pure _

theorem Analysis.isQuiet_inspect (d : Disk) (view : ThemeView) (checks : List Check) (path : Path) :
    (inspect d view checks path).IsQuiet := by
  unfold inspect
  split
  · exact (isQuiet_debug _).bind fun _ => isQuiet_pure _
  · exact (isQuiet_ofExcept _).bind fun file => (isQuiet_ofExcept _).bind fun found =>
      isQuiet_pure _

theorem Analysis.isQuiet_run (d : Disk) (r : Registry) (view : ThemeView) (enabled : List String)
    (target : Except Failure Target) : (run d r view enabled target).IsQuiet := by
  unfold run
  split
  · exact (isQuiet_debug _).bind fun _ => isQuiet_pure _
  · exact (isQuiet_ofExcept _).bind fun checks => (isQuiet_ofExcept _).bind fun target =>
      (isQuiet_inspect d view checks _).bind fun found =>
        (isQuiet_debug _).bind fun _ => isQuiet_pure _

namespace Session

theorem isQuiet_resolve (s : Session) (path : Path) : (s.resolve path).2.IsQuiet := by
  unfold resolve
  split
  · exact isQuiet_pure _
  · exact (isQuiet_ask _).bind fun root => (isQuiet_info _).bind fun _ => Config.isQuiet_load _ _ _

theorem isQuiet_offenses (s : Session) (path : Path) : (s.offenses path).2.IsQuiet := by
  refine (s.isQuiet_resolve path).bind fun config => ?_
  refine (ThemeView.isQuiet_build _ _ _).bind fun view => ?_
  split
  · exact isQuiet_pure _
  · exact Analysis.isQuiet_run _ _ _ _ _

theorem isQuiet_diagnose (s : Session) (uri : Json) : (s.diagnose uri).2.IsQuiet := by
  cases uri with
  | str uri =>
    unfold diagnose
    cases h : Uri.documentPath uri with
    | error fault => simp only [h]; exact isQuiet_fail _
    | ok text =>
      simp only [h]
      exact (s.isQuiet_offenses _).bind fun found => (isQuiet_ofExcept _).bind fun _ =>
        isQuiet_pure _
  | _ => exact isQuiet_fail _

theorem isQuiet_diagnoseIn (s : Session) (params : Json) : (s.diagnoseIn params).2.IsQuiet := by
  unfold diagnoseIn
  cases documentOf params with
  | error failure => exact isQuiet_fail _
  | ok uri => exact s.isQuiet_diagnose uri

theorem isQuiet_logOf (start : String) (params : Json) : (logOf start params).IsQuiet :=
  (isQuiet_ofExcept _).bind fun _ => (isQuiet_ofExcept _).bind fun _ => isQuiet_pure _

theorem isQuiet_answer (s : Session) (method : Method) (id params : Json) :
    (s.answer method id params).2.IsQuiet := by
  cases method with
  | didOpen => exact s.isQuiet_diagnoseIn params
  | didSave => exact s.isQuiet_diagnoseIn params
  | didChange => exact isQuiet_logOf _ params
  | didClose => exact isQuiet_logOf _ params
  | _ => exact isQuiet_pure _

end Session

theorem Payload.emit_publish (uri : String) (diagnostics : List Diagnostic) :
    (publish uri diagnostics).emit.result = .ok .null ∧
      (publish uri diagnostics).emit.calls =
        [.publish (.str uri) (.arr (diagnostics.map Diagnostic.toJson))] := ⟨rfl, rfl⟩

theorem Payload.emit_log (message : Json) :
    (log message).emit.result = .ok .null ∧ (log message).emit.calls = [.showLog message] :=
  ⟨rfl, rfl⟩

namespace Session

theorem logOf_result (start : String) (params : Json) (payload : Payload)
    (h : (logOf start params).result = .ok payload) : ∃ message, payload = .log message := by
  unfold logOf at h
  simp only [Traced.result_bind, Traced.result_ofExcept] at h
  cases hd : documentOf params with
  | error failure => simp [hd, Except.bind] at h
  | ok uri =>
    cases hwords : uri.spelt Json.text with
    | error failure => simp [hd, hwords, Except.bind] at h
    | ok words =>
      simp only [hd, hwords, Except.bind, Traced.result_pure, Except.ok.injEq] at h
      exact ⟨_, h.symm⟩

theorem diagnoseIn_ok (s : Session) (params : Json) (payload : Payload)
    (h : (s.diagnoseIn params).2.result = .ok payload) :
    ∃ uri diagnostics, documentOf params = .ok (.str uri) ∧
      s.diagnosticsOf uri = .ok diagnostics ∧ payload = .publish uri diagnostics := by
  rw [diagnoseIn_result] at h
  cases hd : documentOf params with
  | error failure => simp [hd, Except.bind] at h
  | ok uri =>
    cases uri with
    | str uri =>
      cases hu : s.diagnosticsOf uri with
      | error failure => simp [hd, hu, Except.bind, Except.map] at h
      | ok diagnostics =>
        simp only [hd, hu, Except.bind, Except.map, Except.ok.injEq] at h
        exact ⟨uri, diagnostics, rfl, hu, h.symm⟩
    | _ => simp [hd, Except.bind] at h

/-- The calls of the client that a request with a method makes when it succeeds. -/
def Told (s : Session) (method : Method) (params : Json) (calls : List ClientCall) : Prop :=
  match method with
  | .initializing | .exit => calls = []
  | .initialized | .shutdown | .didChange | .didClose => ∃ message, calls = [.showLog message]
  | .didOpen | .didSave => ∃ uri diagnostics, documentOf params = .ok (.str uri) ∧
      s.diagnosticsOf uri = .ok diagnostics ∧
      calls = [.publish (.str uri) (.arr (diagnostics.map Diagnostic.toJson))]

theorem told_of_answer (s : Session) (method : Method) (id params : Json) (payload : Payload)
    (h : (s.answer method id params).2.result = .ok payload) :
    (∃ returned, payload.emit.result = .ok returned) ∧ s.Told method params payload.emit.calls := by
  have log (start : String) (hlog : (logOf start params).result = .ok payload) :
      (∃ returned, payload.emit.result = .ok returned) ∧
        ∃ message, payload.emit.calls = [.showLog message] := by
    obtain ⟨message, rfl⟩ := logOf_result start params payload hlog
    exact ⟨⟨_, (Payload.emit_log message).1⟩, message, (Payload.emit_log message).2⟩
  have notification (hdoc : (s.diagnoseIn params).2.result = .ok payload) :
      (∃ returned, payload.emit.result = .ok returned) ∧
        s.Told .didOpen params payload.emit.calls := by
    obtain ⟨uri, diagnostics, hd, hu, rfl⟩ := s.diagnoseIn_ok params payload hdoc
    obtain ⟨hresult, hcalls⟩ := Payload.emit_publish uri diagnostics
    exact ⟨⟨_, hresult⟩, uri, diagnostics, hd, hu, hcalls⟩
  cases method with
  | initializing => cases h; exact ⟨⟨_, rfl⟩, rfl⟩
  | exit => cases h; exact ⟨⟨_, rfl⟩, rfl⟩
  | initialized => cases h; exact ⟨⟨_, rfl⟩, _, rfl⟩
  | shutdown => cases h; exact ⟨⟨_, rfl⟩, _, rfl⟩
  | didChange => exact log _ h
  | didClose => exact log _ h
  | didOpen => exact notification h
  | didSave => exact notification h

theorem told_of_diagnoses (s : Session) {method : Method} (h : method.diagnoses = true)
    (params : Json) (calls : List ClientCall) (ht : s.Told method params calls) :
    ∃ uri diagnostics, documentOf params = .ok (.str uri) ∧
      s.diagnosticsOf uri = .ok diagnostics ∧
      calls = [.publish (.str uri) (.arr (diagnostics.map Diagnostic.toJson))] := by
  cases method with
  | didOpen => exact ht
  | didSave => exact ht
  | _ => cases h

theorem told_of_not_diagnoses (s : Session) {method : Method} (h : method.diagnoses = false)
    (params : Json) (calls : List ClientCall) (ht : s.Told method params calls) :
    calls = [] ∨ ∃ message, calls = [.showLog message] := by
  cases method with
  | didOpen => cases h
  | didSave => cases h
  | initializing => exact .inl ht
  | exit => exact .inl ht
  | _ => exact .inr ht

theorem told_given (s : Session) (method : Method) (params : Json) (calls : List ClientCall)
    (h : s.Told method (if params.holds then params else .obj []) calls) :
    s.Told method params calls := by
  by_cases hp : params.holds = true
  · rwa [if_pos hp] at h
  · rw [if_neg hp] at h
    cases method with
    | didOpen => obtain ⟨uri, diagnostics, hd, -⟩ := h; cases hd
    | didSave => obtain ⟨uri, diagnostics, hd, -⟩ := h; cases hd
    | _ => exact h

/-- A request that fails does not reach the client; one that succeeds reaches it as its method
says. -/
theorem handle_calls (s : Session) (method : Method) (params : Json) :
    (∃ failure, (s.handle method params).2.result = .error failure ∧
      (s.handle method params).2.calls = []) ∨
    (∃ returned, (s.handle method params).2.result = .ok returned ∧
      s.Told method params (s.handle method params).2.calls) := by
  simp only [handle, dispatch_name]
  -- The method is answered with what takes the place of its parameters where they do not hold.
  generalize hgiven : (if params.holds then params else .obj []) = given
  have hquiet := s.isQuiet_answer method .null given
  rw [Traced.result_bind, Traced.calls_bind, hquiet]
  cases ha : (s.answer method .null given).2.result with
  | error failure => exact .inl ⟨failure, rfl, rfl⟩
  | ok payload =>
    obtain ⟨⟨returned, hr⟩, hcalls⟩ := s.told_of_answer method .null given payload ha
    subst hgiven
    exact .inr ⟨returned, hr, s.told_given method params _ hcalls⟩

theorem calls_of_error (s : Session) (r : Request) (failure : Failure)
    (h : (s.receive r).2.result = .error failure) : (s.receive r).2.calls = [] := by
  rcases s.receive_cases r with ⟨-, hreceive⟩ | ⟨-, hresult, hcalls⟩
  · rw [hreceive]
    rfl
  · rw [hresult] at h
    rw [hcalls]
    rcases s.handle_calls r.method r.params with ⟨_, _, hnone⟩ | ⟨returned, hr, _⟩
    · exact hnone
    · simp [hr, Except.map] at h

theorem told_of_ok (s : Session) (r : Request) (h : (s.receive r).2.result = .ok ()) :
    s.Told r.method r.params (s.receive r).2.calls := by
  rcases s.receive_cases r with ⟨-, hreceive⟩ | ⟨-, hresult, hcalls⟩
  · rw [hreceive] at h
    cases h
  · rw [hresult] at h
    rw [hcalls]
    rcases s.handle_calls r.method r.params with ⟨failure, hf, _⟩ | ⟨_, _, htold⟩
    · simp [hf, Except.map] at h
    · exact htold

theorem receive_of_not_diagnoses (r : Request) (h : r.method.diagnoses = false) (s t : Session) :
    s.receive r = (s, (t.receive r).2) := by
  obtain ⟨payload, hp⟩ := answer_of_not_diagnoses h .null
    (if r.params.holds then r.params else .obj [])
  have hrecord : r.record? = .ok none := by
    cases r with
    | opened uri => cases h
    | saved uri => cases h
    | _ => rfl
  rw [receive_eq, receive_eq, hrecord]
  simp only [serve, handle, dispatch_name, hp]

end Session

theorem Registry.isQuiet_loadFrom (r : Registry) (entryPoints : List EntryPoint) :
    (r.loadFrom entryPoints).2.IsQuiet := by
  induction entryPoints generalizing r with
  | nil => exact isQuiet_pure _
  | cons e rest ih =>
    unfold loadFrom
    split
    · split
      · exact isQuiet_fail _
      · exact (isQuiet_warning _).bind fun _ => ih r
    · exact (ih r).bind fun _ => isQuiet_pure _
    · split
      · exact isQuiet_fail _
      · next next _ _ => exact (ih next).bind fun _ => isQuiet_pure _

theorem Registry.isQuiet_loadPlugins (r : Registry) (entryPoints : List EntryPoint) :
    (r.loadPlugins entryPoints).2.IsQuiet := by
  unfold loadPlugins
  split
  · exact isQuiet_pure _
  · refine (isQuiet_loadFrom _ entryPoints).bind fun names => ?_
    split
    · exact (isQuiet_info _).bind fun _ => isQuiet_pure _
    · exact isQuiet_pure _

namespace Session

theorem isQuiet_dispatch (s : Session) (method id params : Json) :
    (s.dispatch method id params).2.IsQuiet := by
  unfold dispatch
  split
  · exact (isQuiet_ofExcept _).bind fun _ => isQuiet_fail _
  · exact s.isQuiet_answer _ id _

theorem isQuiet_announce (s : Session) : s.announce.2.IsQuiet := by
  unfold announce
  refine (s.isQuiet_dispatch _ _ _).bind fun payload => ?_
  split
  · exact isQuiet_ofExcept _
  · exact isQuiet_fail _

theorem perform_calls (s : Session) (op : Operation) :
    (s.perform op).2.calls = match op with
      | .request r => (s.receive r).2.calls
      | _ => [] := by
  cases op with
  | request r => rfl
  | resolve path => exact (calls_void _).trans (s.isQuiet_resolve path)
  | offenses path => exact (calls_void _).trans (s.isQuiet_offenses path)
  | dispatch m => exact (calls_void _).trans (s.isQuiet_dispatch m.method m.id m.params)
  | announce => exact (calls_void _).trans s.isQuiet_announce
  | register id =>
    simp only [perform]
    cases s.registry.register id <;> rfl
  | loadPlugins entryPoints =>
    exact (calls_void _).trans (s.registry.isQuiet_loadPlugins entryPoints)
  | _ => rfl

def calls (s : Session) (ops : List Operation) : List ClientCall :=
  s.along (fun s op => (s.perform op).2.calls) ops

end Session

def ClientCall.diagnosticsFor? (uri : String) : ClientCall → Option Json
  | .publish (.str u) diagnostics => if u = uri then some diagnostics else none
  | _ => none

def ClientCall.isSend : ClientCall → Bool
  | .send _ _ => true
  | _ => false

def lastPublished? (uri : String) (calls : List ClientCall) : Option Json :=
  (calls.filterMap (ClientCall.diagnosticsFor? uri)).getLast?

def Operation.diagnosed? : Operation → Option Json
  | .request r => if r.method.diagnoses then (Session.documentOf r.params).toOption else none
  | _ => none

namespace Session

/-- An operation tells the client about a document only when it opened or saved it and succeeded,
and then it tells the diagnostics of that moment. -/
theorem diagnosticsFor_perform (s : Session) (op : Operation) (uri : String) :
    (op.diagnosed? = some (.str uri) ∧ (s.perform op).2.result = .ok () ∧
      ∃ diagnostics, s.diagnosticsOf uri = .ok diagnostics ∧
        (s.perform op).2.calls.filterMap (ClientCall.diagnosticsFor? uri) =
          [.arr (diagnostics.map Diagnostic.toJson)]) ∨
    ((op.diagnosed? = some (.str uri) → ∃ failure, (s.perform op).2.result = .error failure) ∧
      (s.perform op).2.calls.filterMap (ClientCall.diagnosticsFor? uri) = []) := by
  cases op with
  | request r =>
    simp only [perform, Operation.diagnosed?]
    cases hr : (s.receive r).2.result with
    | error failure =>
      refine .inr ⟨fun _ => ⟨failure, rfl⟩, ?_⟩
      rw [s.calls_of_error r failure hr, List.filterMap_nil]
    | ok returned =>
      have htold := s.told_of_ok r hr
      cases hd : r.method.diagnoses with
      | true =>
        obtain ⟨u, diagnostics, hdoc, hu, hcalls⟩ := s.told_of_diagnoses hd r.params _ htold
        rw [hcalls, hdoc]
        by_cases huri : u = uri
        · subst huri
          exact .inl ⟨rfl, rfl, diagnostics, hu, by simp [ClientCall.diagnosticsFor?]⟩
        · refine .inr ⟨?_, by simp [ClientCall.diagnosticsFor?, huri]⟩
          simp [Except.toOption, huri]
      | false =>
        refine .inr ⟨by simp, ?_⟩
        rcases s.told_of_not_diagnoses hd r.params _ htold with hcalls | ⟨message, hcalls⟩
        · rw [hcalls, List.filterMap_nil]
        · simp [hcalls, ClientCall.diagnosticsFor?]
  | _ =>
    refine .inr ⟨by simp [Operation.diagnosed?], ?_⟩
    rw [perform_calls, List.filterMap_nil]

theorem isSend_perform (s : Session) (op : Operation) :
    ∀ call ∈ (s.perform op).2.calls, call.isSend = false := by
  cases op with
  | request r =>
    intro call hcall
    simp only [perform] at hcall
    cases hr : (s.receive r).2.result with
    | error failure =>
      rw [s.calls_of_error r failure hr] at hcall
      cases hcall
    | ok returned =>
      have htold := s.told_of_ok r hr
      cases hd : r.method.diagnoses with
      | true =>
        obtain ⟨uri, diagnostics, -, -, hcalls⟩ := s.told_of_diagnoses hd r.params _ htold
        rw [hcalls, List.mem_singleton] at hcall
        rw [hcall]; rfl
      | false =>
        rcases s.told_of_not_diagnoses hd r.params _ htold with hcalls | ⟨message, hcalls⟩
        · rw [hcalls] at hcall; cases hcall
        · rw [hcalls, List.mem_singleton] at hcall
          rw [hcall]; rfl
  | _ => rw [perform_calls]; simp

theorem isSend_calls (s : Session) (ops : List Operation) :
    ∀ call ∈ s.calls ops, call.isSend = false := by
  induction ops generalizing s with
  | nil => simp [calls, along]
  | cons op ops ih =>
    intro call hcall
    rcases List.mem_append.1 hcall with h | h
    · exact s.isSend_perform op call h
    · exact ih _ call h

theorem lastPublished?_calls (s : Session) (ops : List Operation) (uri : String) (shown : Json) :
    lastPublished? uri (s.calls ops) = some shown ↔
      ∃ before op later diagnostics, ops = before ++ op :: later ∧
        op.diagnosed? = some (.str uri) ∧ ((s.run before).perform op).2.result = .ok () ∧
        (s.run before).diagnosticsOf uri = .ok diagnostics ∧
        shown = .arr (diagnostics.map Diagnostic.toJson) ∧
        ∀ between op' rest, later = between ++ op' :: rest → op'.diagnosed? = some (.str uri) →
          ∃ failure, ((s.run (before ++ op :: between)).perform op').2.result = .error failure := by
  have hrun (before : List Operation) (op : Operation) (between : List Operation) :
      s.run (before ++ op :: between) = (s.run (before ++ [op])).run between := by
    rw [← run_append, List.append_assoc, List.singleton_append]
  unfold lastPublished? calls
  -- The last call about the document comes of one operation with none behind it.
  rw [filterMap_along, getLast?_along_eq_some_iff]
  constructor
  · intro h
    obtain ⟨before, op, later, rfl, hseen, hnone⟩ := h
    rcases (s.run before).diagnosticsFor_perform op uri with
      ⟨hop, hok, diagnostics, hdiag, hcalls⟩ | ⟨-, hcalls⟩
    · rw [hcalls, List.getLast?_singleton, Option.some.injEq] at hseen
      refine ⟨before, op, later, diagnostics, rfl, hop, hok, hdiag, hseen.symm, ?_⟩
      intro between op' rest heq hop'
      subst heq
      have hempty := (along_eq_nil_iff _ _ _).1 hnone between op' rest rfl
      rw [hrun]
      rcases diagnosticsFor_perform _ op' uri with ⟨-, -, _, -, hcalls'⟩ | ⟨hfails, -⟩
      · rw [hcalls'] at hempty
        cases hempty
      · exact hfails hop'
    · rw [hcalls] at hseen
      cases hseen
  · intro h
    obtain ⟨before, op, later, diagnostics, rfl, hop, hok, hdiag, rfl, hfails⟩ := h
    refine ⟨before, op, later, rfl, ?_, (along_eq_nil_iff _ _ _).2 ?_⟩
    · rcases (s.run before).diagnosticsFor_perform op uri with
        ⟨-, -, diagnostics', hdiag', hcalls⟩ | ⟨hfail, -⟩
      · obtain rfl := Except.ok.inj (hdiag.symm.trans hdiag')
        rw [hcalls]; rfl
      · obtain ⟨failure, hf⟩ := hfail hop
        cases hf.symm.trans hok
    · intro between op' rest heq
      subst heq
      rw [← hrun]
      rcases diagnosticsFor_perform _ op' uri with ⟨hop', hok', -⟩ | ⟨-, hcalls'⟩
      · obtain ⟨failure, hf⟩ := hfails between op' rest rfl hop'
        cases hf.symm.trans hok'
      · exact hcalls'

/-- What a client hears. A request that fails makes no call of it; one that succeeds makes those
that its method says; one that asks for no diagnostics is served alike by every session, whatever
its files and its configuration, and changes none. So nothing but diagnostics and log messages is
ever sent, and what the client was last told about a document is what its last successful opening
or saving found. -/
theorem client_hears_each_success_once (s : Session) :
    (∀ r failure, (s.receive r).2.result = .error failure → (s.receive r).2.calls = []) ∧
    (∀ r, (s.receive r).2.result = .ok () → s.Told r.method r.params (s.receive r).2.calls) ∧
    (∀ r, r.method.diagnoses = false → ∀ t : Session, s.receive r = (s, (t.receive r).2)) ∧
    (∀ ops, ∀ call ∈ s.calls ops, call.isSend = false) ∧
    ∀ ops uri shown, lastPublished? uri (s.calls ops) = some shown ↔
      ∃ before op later diagnostics, ops = before ++ op :: later ∧
        op.diagnosed? = some (.str uri) ∧ ((s.run before).perform op).2.result = .ok () ∧
        (s.run before).diagnosticsOf uri = .ok diagnostics ∧
        shown = .arr (diagnostics.map Diagnostic.toJson) ∧
        ∀ between op' rest, later = between ++ op' :: rest → op'.diagnosed? = some (.str uri) →
          ∃ failure, ((s.run (before ++ op :: between)).perform op').2.result = .error failure :=
  ⟨s.calls_of_error, s.told_of_ok, fun r h t => receive_of_not_diagnoses r h s t, s.isSend_calls,
    s.lastPublished?_calls⟩

end Session

end ThemeLint
