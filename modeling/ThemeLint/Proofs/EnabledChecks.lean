import ThemeLint.Proofs.EngineFailures
import ThemeLint.Proofs.Settings

set_option autoImplicit false

namespace ThemeLint

theorem Config.enabled_sublist {d : Disk} {known : List String} {dir : Path} {config : Config}
    (h : (load d known dir).result = .ok config) : config.enabled.Sublist known := by
  obtain ⟨entries, hholds⟩ := exists_holds_of_load h
  rw [hholds.load_eq] at h
  obtain ⟨-, -, -, henabled, -⟩ := ofEntries_eq_ok_iff.1 h
  rw [← henabled]
  exact List.filter_sublist

namespace Registry

variable {r next : Registry}

theorem Extends.names_sublist (h : r.Extends next) : r.names.Sublist next.names := by
  obtain ⟨new, heq, -⟩ := h
  rw [names, names, heq, List.map_append]
  exact List.sublist_append_left _ _

/-- Making the check of one of these names fails, on the account of its class. -/
def TroubledBy (r : Registry) (names : List String) (failure : Failure) : Prop :=
  ∃ name ∈ names, ∃ id, r.find? name = some id ∧
    r.table.inherited CheckClass.trouble id = some failure

theorem failsAs_checksFor {names : List String} (h : names.Sublist r.names) :
    FailsAs (r.TroubledBy names) (r.checksFor names) := by
  refine failsAs_mapM fun name hname failure hfailure => ?_
  rcases (r.make_eq_error_iff name failure).1 hfailure with ⟨hmissing, -⟩ | ⟨id, hfind, htrouble⟩
  · exact absurd (h.subset hname) hmissing
  · exact ⟨name, hname, id, hfind, htrouble⟩

end Registry

namespace Analysis

theorem failsAs_findAll (file : ThemeFile) (checks : List Check) :
    FailsAs (fun failure => ∃ c ∈ checks, ∃ own, (c.analyse file).failure = some own ∧
      failure = blame c file.path own) (findAll file checks) := by
  intro failure h
  obtain ⟨c, own, hfirst, hown, heq⟩ := (findAll_eq_error_iff file checks failure).1 h
  exact ⟨c, hfirst.mem, own, hown, heq⟩

theorem failsAs_readTarget (d : Disk) (path : Path) :
    FailsAs (fun failure => ∀ name, failure ≠ .unregistered name) (readTarget d path) := by
  unfold readTarget
  split
  · exact failsAs_ok _
  · exact failsAs_error nofun
  · exact failsAs_error nofun
  · exact failsAs_error nofun

/-- A check says that another one is not registered: it fails for that, or does so in place of the
words for what it fails for. -/
def MissedBy (c : Check) (file : ThemeFile) (name : String) : Prop :=
  ∃ own, (c.analyse file).failure = some own ∧
    (own = .unregistered name ∨ own.message = .error (.unregistered name))

theorem missedBy_of_blame {c : Check} {file : ThemeFile} {own : Failure} {name : String}
    (hown : (c.analyse file).failure = some own)
    (h : blame c file.path own = .unregistered name) : MissedBy c file name := by
  rcases blame_cases c file.path own with
    ⟨-, heq⟩ | ⟨-, ⟨words, -, heq⟩ | ⟨trouble, hwords, heq⟩⟩
  · exact ⟨own, hown, .inl (heq.symm.trans h)⟩
  · rw [heq] at h
    cases h
  · exact ⟨own, hown, .inr (by rw [hwords, ← heq, h])⟩

theorem missed_of_run {d : Disk} {r : Registry} {view : ThemeView} {enabled : List String}
    {path : Path} {name : String} (henabled : enabled.Sublist r.names)
    (h : (run d r view enabled (.ok (.ofPath path))).result = .error (.unregistered name)) :
    r.TroubledBy enabled (.unregistered name) ∨
    ∃ checks file c, r.checksFor enabled = .ok checks ∧ readTarget d path = .ok file ∧
      c ∈ checks ∧ MissedBy c file name := by
  cases hchecks : r.checksFor enabled with
  | error failure =>
    rw [run_eq, hchecks] at h
    split at h
    · cases h
    · cases h
      exact .inl (Registry.failsAs_checksFor henabled _ hchecks)
  | ok checks =>
    rw [run_result d r view enabled checks hchecks, Target.path_ofPath] at h
    split at h
    · cases hread : readTarget d path with
      | error failure =>
        rw [hread] at h
        cases h
        exact absurd rfl (failsAs_readTarget d path _ hread name)
      | ok file =>
        rw [hread] at h
        have hfails := (map_eq_error_iff _ _ _).1 h
        obtain ⟨c, hc, own, hown, hblame⟩ := failsAs_findAll file checks _ hfails
        exact .inr ⟨checks, file, c, rfl, rfl, hc, missedBy_of_blame hown hblame.symm⟩
    · cases h

end Analysis

def Operation.change? : Operation → Option Registry.Change
  | .register id => some (.register id)
  | .unregister name => some (.unregister name)
  | .loadPlugins es => some (.loadPlugins es)
  | _ => none

namespace Session

variable {s : Session}

theorem perform_registry (s : Session) (op : Operation) :
    (s.perform op).1.registry = op.change?.elim s.registry fun c => (s.registry.change c).1 := by
  have asked (x : Option Path) : (x.elim s s.settle).registry = s.registry := by
    cases x <;> rfl
  cases op with
  | resolve path => exact (congrArg registry (s.resolve_eq path).1).trans (asked (some path))
  | offenses path => exact (congrArg registry (s.offenses_fst path)).trans (asked (some path))
  | dispatch m => exact (congrArg registry (s.dispatch_fst m)).trans (asked _)
  | request r => exact (congrArg registry (s.receive_fst r)).trans (asked _)
  | announce => exact congrArg registry s.announce_fst
  | register id =>
    simp only [perform, Operation.change?, Option.elim_some, Registry.change]
    cases s.registry.register id <;> rfl
  | _ => rfl

theorem extends_perform (s : Session) {op : Operation} (h : ∀ name, op ≠ .unregister name) :
    s.registry.Extends (s.perform op).1.registry := by
  rw [perform_registry]
  cases op with
  | register id =>
    simp only [Operation.change?, Option.elim_some, Registry.change_register]
    exact Registry.extends_registerAll _ _
  | unregister name => exact absurd rfl (h name)
  | loadPlugins es =>
    simp only [Operation.change?, Option.elim_some, Registry.change]
    exact s.registry.extends_loadPlugins es
  | _ => exact .refl _

/-- Names are distinct, and what is enabled is registered, in the same order. -/
structure FindsEnabled (s : Session) : Prop where
  nodup : s.registry.names.Nodup
  enabled : ∀ config, s.config = some config → config.enabled.Sublist s.registry.names

theorem FindsEnabled.of_configFor (h : s.FindsEnabled) {path : Path} {config : Config}
    (hconfig : s.configFor path = .ok config) : config.enabled.Sublist s.registry.names := by
  unfold configFor at hconfig
  split at hconfig
  next held hheld =>
    cases hconfig
    exact h.enabled _ hheld
  next =>
    obtain ⟨root, -, hload⟩ := (loadFor_eq_ok_iff s path config).1 hconfig
    exact Config.enabled_sublist hload

/-- What a session holds after an operation is what some path would have got before it. -/
theorem exists_configFor_of_perform {op : Operation} {config : Config}
    (h : (s.perform op).1.config = some config) : ∃ path, s.configFor path = .ok config := by
  unfold configFor
  cases hheld : s.config with
  | some held =>
    rw [perform_config, hheld] at h
    exact ⟨⟨.relative, []⟩, congrArg Except.ok (Option.some.inj h)⟩
  | none =>
    obtain ⟨path, -, hload⟩ := loadFor_of_perform hheld h
    exact ⟨path, hload⟩

theorem FindsEnabled.perform (h : s.FindsEnabled) {op : Operation}
    (hop : ∀ name, op = .unregister name → s.config = none) : (s.perform op).1.FindsEnabled where
  nodup := by
    rw [perform_registry]
    cases op.change? with
    | none => exact h.nodup
    | some c => exact Registry.nodup_change h.nodup c
  enabled := by
    intro config hconfig
    -- A check is only taken out while no configuration is held, and that changes none.
    by_cases hout : ∃ name, op = .unregister name
    · obtain ⟨name, rfl⟩ := hout
      rw [perform_config, hop name rfl] at hconfig
      cases hconfig
    · have hgrows := s.extends_perform fun name heq => hout ⟨name, heq⟩
      refine List.Sublist.trans ?_ hgrows.names_sublist
      obtain ⟨path, hpath⟩ := exists_configFor_of_perform hconfig
      exact h.of_configFor hpath

/-- Once a session holds a configuration, no check is taken out of the registry. -/
def KeepsChecks (s : Session) (ops : List Operation) : Prop :=
  ∀ before name later, ops = before ++ .unregister name :: later → (s.run before).config = none

theorem keepsChecks_cons (s : Session) (op : Operation) (ops : List Operation) :
    s.KeepsChecks (op :: ops) ↔
      (∀ name, op = .unregister name → s.config = none) ∧ (s.perform op).1.KeepsChecks ops := by
  constructor
  · intro h
    refine ⟨fun name heq => h [] name ops (by rw [heq]; rfl), fun before name later heq => ?_⟩
    exact h (op :: before) name later (by rw [heq]; rfl)
  · intro h before name later heq
    cases before with
    | nil => exact h.1 name (List.cons.inj heq).1
    | cons first before =>
      obtain ⟨rfl, hrest⟩ := List.cons.inj heq
      exact h.2 before name later hrest

theorem run_cons (s : Session) (op : Operation) (ops : List Operation) :
    s.run (op :: ops) = (s.perform op).1.run ops := rfl

theorem FindsEnabled.run (h : s.FindsEnabled) {ops : List Operation} (hops : s.KeepsChecks ops) :
    (s.run ops).FindsEnabled := by
  induction ops generalizing s with
  | nil => exact h
  | cons op ops ih =>
    obtain ⟨hop, hrest⟩ := (s.keepsChecks_cons op ops).1 hops
    exact ih (h.perform hop) hrest

theorem findsEnabled_start (disk : Disk) (classes : List CheckClass) :
    (start disk (Registry.ofClasses classes)).FindsEnabled where
  nodup := List.nodup_nil
  enabled := nofun

theorem missed_of_findingsUnder {config : Config} {path : Path} {name : String}
    (henabled : config.enabled.Sublist s.registry.names)
    (h : (s.findingsUnder config path).result = .error (.unregistered name)) :
    s.registry.TroubledBy config.enabled (.unregistered name) ∨
    ∃ checks file c, s.registry.checksFor config.enabled = .ok checks ∧
      Analysis.readTarget s.disk path = .ok file ∧ c ∈ checks ∧ Analysis.MissedBy c file name := by
  rw [findingsUnder_eq] at h
  cases hbuild : (ThemeView.build s.disk config.root config.ignore).result with
  | error failure =>
    rw [hbuild] at h
    cases h
    exact absurd rfl (ThemeView.sparesEngine_build _ _ _ _ hbuild)
  | ok view =>
    rw [hbuild] at h
    exact Analysis.missed_of_run henabled h

/-- As long as no check is taken out after the configuration was loaded, the checks that it enables
stay registered, each once and in the order of the registry, whatever is registered, refused or
loaded since. So all of them are found: making them only fails on the account of a class of theirs,
and an operation that fails for a check that is not registered was told so from outside: by a class,
by a check, or by a plugin that was to be reported as broken. -/
theorem enabled_checks_are_found (disk : Disk) (classes : List CheckClass) (ops : List Operation)
    (h : (start disk (Registry.ofClasses classes)).KeepsChecks ops) :
    let s := (start disk (Registry.ofClasses classes)).run ops
    (∀ before later config, ops = before ++ later →
      ((start disk (Registry.ofClasses classes)).run before).config = some config →
      s.config = some config ∧ config.enabled.Sublist s.registry.names ∧ config.enabled.Nodup ∧
      ∀ failure, s.registry.checksFor config.enabled = .error failure →
        s.registry.TroubledBy config.enabled failure) ∧
    ∀ op name, (s.perform op).2.result = .error (.unregistered name) →
      (∃ path config, op.asked? = some path ∧ s.configFor path = .ok config ∧
        (s.registry.TroubledBy config.enabled (.unregistered name) ∨
        ∃ checks file c, s.registry.checksFor config.enabled = .ok checks ∧
          Analysis.readTarget s.disk path = .ok file ∧ c ∈ checks ∧
          Analysis.MissedBy c file name)) ∨
      ∃ es e own, op = .loadPlugins es ∧ e ∈ es ∧ e.plugin = .broken own ∧
        own.message = .error (.unregistered name) := by
  intro s
  have hfinds : s.FindsEnabled := (findsEnabled_start disk classes).run h
  refine ⟨fun before later config heq hheld => ?_, fun op name hfails => ?_⟩
  · have hconfig : s.config = some config := by
      simp only [s, heq, run_append]
      exact run_config_of_some _ config hheld later
    have henabled := hfinds.enabled config hconfig
    exact ⟨hconfig, henabled, hfinds.nodup.sublist henabled, Registry.failsAs_checksFor henabled⟩
  · rcases failsAt_of_perform hfails rfl with ⟨path, hasked, config, hconfig, hfound⟩ | hplugin
    · exact .inl ⟨path, config, hasked, hconfig,
        missed_of_findingsUnder (hfinds.of_configFor hconfig) hfound⟩
    · exact .inr hplugin

section Sample

open Config

def sampleOperations : List Operation :=
  [.register 0, .unregister "a", .register 0, .register 1] ++
    .resolve ⟨.root, ["p"]⟩ :: [.register 1, .register 2]

def laterClasses : List CheckClass := sampleClasses ++ [⟨"C", some "c", none, [], none, none⟩]

def sampleStart : Session := start (Disk.ofDirectory "p" sample) (Registry.ofClasses laterClasses)

theorem discoverRoot_sample :
    discoverRoot (Disk.ofDirectory "p" sample) ⟨.root, ["p"]⟩ = .ok ⟨.root, ["p"]⟩ := by
  have hdir : (Disk.ofDirectory "p" sample).isDirectory ⟨.root, ["p"]⟩ = .ok true :=
    Disk.isA_ofDirectory isPlain_sample 0 (p := ⟨.root, ["p"]⟩) rfl (by decide)
      (Disk.get?_ofDirectory isPlain_sample) rfl Node.isDirectory
  refine discoverRoot_of_first hdir rfl ?_
  rw [join_fileName]
  exact Disk.isA_ofDirectory isPlain_sample 0 (p := ⟨.root, ["p", fileName]⟩) rfl
    (by decide) (Disk.get?_ofDirectory_of_mem isPlain_sample List.mem_cons_self) rfl _

theorem run_sample :
    (sampleStart.run sampleOperations).config = some sampleConfig ∧
      (sampleStart.run sampleOperations).registry.names = ["a", "b", "c"] := by
  let before : List Operation := [.register 0, .unregister "a", .register 0, .register 1]
  have hdisk : (sampleStart.run before).disk = Disk.ofDirectory "p" sample := rfl
  have hknown : (sampleStart.run before).registry.names = ["a", "b"] := by decide
  have hload : (sampleStart.run before).configFor ⟨.root, ["p"]⟩ = .ok sampleConfig := by
    refine (loadFor_eq_ok_iff (sampleStart.run before) _ _).2 ⟨⟨.root, ["p"]⟩, ?_, ?_⟩
    · rw [hdisk]
      exact discoverRoot_sample
    · rw [hdisk, hknown]
      exact load_sample
  have hheld : ((sampleStart.run before).perform (.resolve ⟨.root, ["p"]⟩)).1 =
      { sampleStart.run before with config := some sampleConfig } := by
    have hsettled := (resolve_eq (sampleStart.run before) ⟨.root, ["p"]⟩).1
    rw [settle, hload] at hsettled
    exact hsettled
  rw [sampleOperations, run_append, run_cons, hheld]
  exact ⟨run_config_of_some _ _ rfl _, by decide⟩

theorem keepsChecks_sample : sampleStart.KeepsChecks sampleOperations := by
  simp only [sampleOperations, List.cons_append, List.nil_append, keepsChecks_cons]
  refine ⟨nofun, fun _ _ => rfl, nofun, nofun, nofun, nofun, nofun, fun before name later heq => ?_⟩
  simp at heq

theorem enabled_check_of_sample :
    sampleStart.KeepsChecks sampleOperations ∧
    (sampleStart.run sampleOperations).config = some sampleConfig ∧
    sampleConfig.enabled.Sublist ["a", "b", "c"] ∧ sampleConfig.enabled.Nodup := by
  obtain ⟨hconfig, hnames⟩ := run_sample
  obtain ⟨hheld, -⟩ := enabled_checks_are_found (Disk.ofDirectory "p" sample)
    laterClasses sampleOperations keepsChecks_sample
  obtain ⟨-, hsublist, hnodup, -⟩ := hheld sampleOperations [] sampleConfig (by simp) hconfig
  exact ⟨keepsChecks_sample, hconfig, hnames ▸ hsublist, hnodup⟩

end Sample

end Session

end ThemeLint
