import ThemeLint.Proofs.Analysis
import ThemeLint.Proofs.ClientCalls
import ThemeLint.Proofs.ConfigFile
import ThemeLint.Proofs.Listing
import ThemeLint.Proofs.RegistryHistory

/-!
Where failures of the engine come from. Configurations, listings of files, diagnostics, the registry
and the client all fail in other ways, so an operation that fails like this got as far as analysing
a file, and failed there. Only what a broken plugin is broken by may fail so too, when it is asked
for its words.
-/

set_option autoImplicit false

namespace ThemeLint

abbrev SparesEngine {α : Type} (x : Except Failure α) : Prop :=
  FailsAs (fun failure => failure.kind ≠ .engine) x

theorem ReadFault.kind_ne_engine (fault : ReadFault) : fault.kind ≠ .engine := by
  cases fault <;> simp [kind]

theorem Yaml.Fault.kind_ne_engine (fault : Yaml.Fault) : fault.kind ≠ .engine := by
  cases fault <;> simp [kind]

namespace Config

theorem sparesEngine_readEntries (d : Disk) (file : Path) : SparesEngine (readEntries d file) := by
  unfold readEntries
  split
  · exact failsAs_error nofun
  next fault _ _ => exact failsAs_error fault.kind_ne_engine
  · split
    · exact failsAs_error nofun
    next why _ => exact failsAs_error why.kind_ne_engine
    · exact failsAs_mapError fun _ _ => by nofun

theorem sparesEngine_switchedOff (file : Path) (known : List String) (entries : Entries) :
    SparesEngine (switchedOff file known entries).result := by
  rw [switchedOff_result]
  split
  next failure hfirst =>
    obtain ⟨entry, -, hentry⟩ := List.exists_of_findSome?_eq_some hfirst
    rcases entryFailure?_cases hentry with ⟨label, rfl⟩ | ⟨rfl, -⟩
    · exact failsAs_error nofun
    · exact failsAs_error nofun
  next => exact failsAs_ok _

theorem sparesEngine_ofEntries (known : List String) (dir : Path) (source : Option Path)
    (entries : Entries) : SparesEngine (ofEntries known dir source entries).result := by
  unfold ofEntries
  simp only [Traced.result_bind, Traced.result_ofExcept]
  exact (failsAs_mapError fun _ _ => by nofun).bind fun _ =>
    (failsAs_mapError fun _ _ => by nofun).bind fun _ =>
      (sparesEngine_switchedOff _ _ _).bind fun _ => failsAs_ok _

theorem sparesEngine_load (d : Disk) (known : List String) (dir : Path) :
    SparesEngine (load d known dir).result := by
  unfold load
  rw [Traced.result_bind]
  refine (failsAs_mapError fun _ _ => by nofun).bind fun present => ?_
  split
  · rw [Traced.result_bind]
    exact (sparesEngine_readEntries _ _).bind fun _ => sparesEngine_ofEntries _ _ _ _
  · exact sparesEngine_ofEntries _ _ _ _

end Config

theorem ThemeView.sparesEngine_build (d : Disk) (root : Path) (patterns : List WideText) :
    SparesEngine (build d root patterns).result := by
  intro failure hfailure
  obtain ⟨place, rfl⟩ := failsAs_build d root patterns failure hfailure
  nofun

theorem Coordinate.sparesEngine_ofJson (field : String) (value : Json) :
    SparesEngine (ofJson field value) := by
  unfold ofJson
  split
  · exact failsAs_ok _
  · split
    · split
      · exact failsAs_ok _
      · exact failsAs_error nofun
    · exact failsAs_error nofun
  · exact failsAs_error nofun

theorem Diagnostic.sparesEngine_ofFindings (fs : List Finding) : SparesEngine (ofFindings fs) := by
  refine failsAs_mapM fun f _ => ?_
  unfold ofFinding
  refine (Coordinate.sparesEngine_ofJson _ _).bind fun _ =>
    (Coordinate.sparesEngine_ofJson _ _).bind fun _ =>
      (Coordinate.sparesEngine_ofJson _ _).bind fun _ =>
        (Coordinate.sparesEngine_ofJson _ _).bind fun _ => ?_
  split
  · exact failsAs_ok _
  · exact failsAs_error nofun

theorem Json.sparesEngine_item (key : String) (value : Json) : SparesEngine (value.item key) := by
  unfold item
  split
  · split
    · exact failsAs_ok _
    · exact failsAs_error nofun
  · exact failsAs_error nofun

theorem Json.sparesEngine_spelt (spelling : Json → String) (value : Json) :
    SparesEngine (value.spelt spelling) := by
  unfold spelt
  split
  · exact failsAs_ok _
  · exact failsAs_error nofun

namespace Session

theorem sparesEngine_documentOf (params : Json) : SparesEngine (documentOf params) :=
  (Json.sparesEngine_item _ _).bind fun document => Json.sparesEngine_item _ document

theorem sparesEngine_configFor (s : Session) (path : Path) : SparesEngine (s.configFor path) := by
  unfold configFor
  split
  · exact failsAs_ok _
  · unfold loadFor
    rw [Traced.result_bind]
    refine FailsAs.bind (failsAs_mapError fun _ _ => by nofun) fun root => ?_
    rw [Traced.result_bind]
    exact (failsAs_ok ()).bind fun _ => Config.sparesEngine_load _ _ _

/-- The engine fails at a path whose project has a configuration, while it finds the offenses. -/
def FailsAt (s : Session) (path : Path) (failure : Failure) : Prop :=
  ∃ config, s.configFor path = .ok config ∧
    (s.findingsUnder config path).result = .error failure

variable {s : Session} {failure : Failure}

theorem failsAt_of_offenses {path : Path} (h : (s.offenses path).2.result = .error failure)
    (hkind : failure.kind = .engine) : s.FailsAt path failure := by
  rw [offenses_result] at h
  cases hconfig : s.configFor path with
  | error other =>
    rw [hconfig] at h
    cases h
    exact absurd hkind (s.sparesEngine_configFor path failure hconfig)
  | ok config =>
    rw [hconfig] at h
    exact ⟨config, hconfig, h⟩

theorem failsAt_of_diagnosticsOf {uri : String} (h : s.diagnosticsOf uri = .error failure)
    (hkind : failure.kind = .engine) :
    ∃ text, Uri.documentPath uri = .ok text ∧ s.FailsAt (Path.ofText text) failure := by
  unfold diagnosticsOf at h
  split at h
  · cases h
    cases hkind
  next text htext =>
    refine ⟨text, htext, ?_⟩
    cases hfound : (s.offenses (Path.ofText text)).2.result with
    | error other =>
      rw [hfound] at h
      cases h
      exact failsAt_of_offenses hfound hkind
    | ok found =>
      rw [hfound] at h
      exact absurd hkind (Diagnostic.sparesEngine_ofFindings found failure h)

theorem failsAt_of_diagnoseIn {params : Json}
    (h : (s.diagnoseIn params).2.result = .error failure) (hkind : failure.kind = .engine) :
    ∃ path, documentPath? params = some path ∧ s.FailsAt path failure := by
  rw [diagnoseIn_result] at h
  cases hdocument : documentOf params with
  | error other =>
    rw [hdocument] at h
    cases h
    exact absurd hkind (sparesEngine_documentOf params failure hdocument)
  | ok uri =>
    rw [hdocument] at h
    cases uri with
    | str uri =>
      cases hdiagnostics : s.diagnosticsOf uri with
      | ok diagnostics => simp [Except.bind, hdiagnostics, Except.map] at h
      | error other =>
        simp only [Except.bind, hdiagnostics, Except.map] at h
        cases h
        obtain ⟨text, htext, hfails⟩ := failsAt_of_diagnosticsOf hdiagnostics hkind
        exact ⟨_, (documentPath?_eq_some_iff params _).2 ⟨uri, text, hdocument, htext, rfl⟩, hfails⟩
    | _ =>
      cases h
      cases hkind

theorem failsAt_of_answer {method : Method} {id params : Json}
    (h : (s.answer method id params).2.result = .error failure) (hkind : failure.kind = .engine) :
    ∃ path, method.asked? params = some path ∧ s.FailsAt path failure := by
  have log (start : String) (hlog : (logOf start params).result = .error failure) : False := by
    unfold logOf at hlog
    simp only [Traced.result_bind, Traced.result_ofExcept] at hlog
    exact ((sparesEngine_documentOf params).bind fun uri => (uri.sparesEngine_spelt _).bind fun _ =>
      failsAs_ok _) failure hlog hkind
  cases method with
  | didOpen => exact failsAt_of_diagnoseIn h hkind
  | didSave => exact failsAt_of_diagnoseIn h hkind
  | didClose => exact (log _ h).elim
  | didChange => exact (log _ h).elim
  | _ => cases h

theorem failsAt_of_receive {r : Request} (h : (s.receive r).2.result = .error failure)
    (hkind : failure.kind = .engine) :
    ∃ path, r.method.asked? r.params = some path ∧ s.FailsAt path failure := by
  rcases s.receive_cases r with ⟨-, hreceive⟩ | ⟨-, hresult, -⟩
  · rw [hreceive] at h
    cases h
    cases hkind
  rw [hresult] at h
  simp only [handle, dispatch_name, Traced.result_bind] at h
  rw [← asked?_given]
  cases hanswer : (s.answer r.method .null (if r.params.holds then r.params else .obj [])).2.result with
  | error other =>
    rw [hanswer] at h
    cases h
    exact failsAt_of_answer hanswer hkind
  | ok payload =>
    obtain ⟨⟨returned, hemit⟩, -⟩ := s.told_of_answer _ _ _ payload hanswer
    simp [hanswer, hemit, Except.bind, Except.map] at h

theorem failsAt_of_dispatch {m : Message}
    (h : (s.dispatch m.method m.id m.params).2.result = .error failure)
    (hkind : failure.kind = .engine) :
    ∃ path, m.asked? = some path ∧ s.FailsAt path failure := by
  unfold dispatch at h
  unfold Message.asked?
  cases hmethod : Method.ofJson? m.method with
  | none =>
    simp only [hmethod, Traced.result_bind, Traced.result_ofExcept] at h
    cases hwords : m.method.spelt Json.text with
    | error other =>
      rw [hwords] at h
      cases h
      exact absurd hkind (m.method.sparesEngine_spelt _ _ hwords)
    | ok words =>
      rw [hwords] at h
      cases h
      cases hkind
  | some method =>
    simp only [hmethod] at h
    rw [Option.bind_some, ← asked?_given]
    exact failsAt_of_answer h hkind

theorem exists_announce_eq (s : Session) : ∃ options, s.announce.2.result = .ok options :=
  ⟨_, rfl⟩

/-- An operation that fails as the engine does has come as far as looking for offenses, or it met that
failure while a broken plugin was to be reported. -/
theorem failsAt_of_perform {op : Operation} (h : (s.perform op).2.result = .error failure)
    (hkind : failure.kind = .engine) :
    (∃ path, op.asked? = some path ∧ s.FailsAt path failure) ∨
    ∃ es e own, op = .loadPlugins es ∧ e ∈ es ∧ e.plugin = .broken own ∧
      own.message = .error failure := by
  cases op with
  | resolve path =>
    simp only [perform, Traced.result_void, map_eq_error_iff, (s.resolve_eq path).2] at h
    exact absurd hkind (s.sparesEngine_configFor path failure h)
  | offenses path =>
    simp only [perform, Traced.result_void, map_eq_error_iff] at h
    exact .inl ⟨path, rfl, failsAt_of_offenses h hkind⟩
  | dispatch m =>
    simp only [perform, Traced.result_void, map_eq_error_iff] at h
    exact .inl (failsAt_of_dispatch h hkind)
  | request r => exact .inl (failsAt_of_receive h hkind)
  | announce =>
    simp only [perform, Traced.result_void, map_eq_error_iff] at h
    obtain ⟨options, hoptions⟩ := s.exists_announce_eq
    rw [hoptions] at h
    cases h
  | register id =>
    cases hregister : s.registry.register id with
    | ok made =>
      simp only [perform, hregister] at h
      cases h
    | error other =>
      simp only [perform, hregister] at h
      cases h
      have hrefused : (s.registry.change (.register id)).2 = .error failure := by
        rw [Registry.change, hregister]
      rw [(Registry.change_register_of_error hrefused).1] at hkind
      cases hkind
  | loadPlugins es =>
    simp only [perform, Traced.result_void, map_eq_error_iff] at h
    obtain ⟨before, e, later, rfl, hstops, -⟩ := Registry.loadPlugins_of_error h
    rcases hstops.kind_or with hvalue | ⟨own, hplugin, hwords⟩
    · rw [hvalue] at hkind
      cases hkind
    · exact .inr ⟨_, e, own, rfl, by simp, hplugin, hwords⟩
  | _ => cases h

end Session

end ThemeLint
