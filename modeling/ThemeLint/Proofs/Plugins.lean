import ThemeLint.StartUp
import ThemeLint.Proofs.Registration
import ThemeLint.Proofs.Traversal

/-!
Loading plugins, and the start of the server behind it. What cannot be loaded is reported and
skipped. Two things end the loading, and then the server never listens to anyone: a check whose name
another class has by then, and a broken plugin that there are no words for. Without them all plugins
are gone through and the server listens, once.
-/

set_option autoImplicit false

namespace ThemeLint

namespace EntryPoint

def class? (e : EntryPoint) : Option ClassId :=
  match e.plugin with
  | .check id => some id
  | _ => none

def report? (e : EntryPoint) : Option Event :=
  match e.plugin with
  | .broken failure => failure.message.toOption.map fun words =>
    .record .warning s!"Falha ao carregar plugin {e.name}: {words}"
  | _ => none

def isBroken (e : EntryPoint) : Bool :=
  match e.plugin with
  | .broken _ => true
  | _ => false

end EntryPoint

namespace Registry

variable {r mid next : Registry} {e : EntryPoint} {failure : Failure}

def loadedNames (es : List EntryPoint) : List String := (es.filter (!·.isBroken)).map (·.name)

/-- What a plugin makes of the registry, unless the loading ends there. -/
def accept (r : Registry) (e : EntryPoint) : Except Failure Registry :=
  match e.plugin with
  | .check id => (r.register id).map Prod.fst
  | .otherObject => .ok r
  | .broken failure => failure.message.map fun _ => r

def goThrough (r : Registry) (es : List EntryPoint) : Except Failure Registry := es.foldlM accept r

/-- What ends the loading at a plugin. -/
inductive Stops (r : Registry) (e : EntryPoint) : Failure → Prop where
  /-- Another class has the name that the check asks for. -/
  | clash {id other : ClassId} : e.plugin = .check id → other ≠ id →
      r.find? (r.nameFor id) = some other → Stops r e (.nameTaken (r.nameFor id))
  /-- The plugin is broken, and there are no words for that. -/
  | wordless {own trouble : Failure} : e.plugin = .broken own → own.message = .error trouble →
      Stops r e trouble

theorem accept_eq_error_iff (r : Registry) (e : EntryPoint) (failure : Failure) :
    r.accept e = .error failure ↔ r.Stops e failure := by
  unfold accept
  constructor
  · intro h
    split at h
    next id hplugin =>
      rcases r.register_cases id with ⟨-, heq⟩ | ⟨-, heq⟩ | ⟨other, hne, hfind, heq⟩
      all_goals
        rw [heq] at h
        cases h
      exact .clash hplugin hne hfind
    next => cases h
    next own hplugin => exact .wordless hplugin ((map_eq_error_iff _ _ _).1 h)
  · intro h
    cases h with
    | clash hplugin hne hfind => simp [hplugin, register_of_other hfind hne, Except.map]
    | wordless hplugin hwords => simp [hplugin, hwords, Except.map]

theorem accept_cases (h : r.accept e = .ok next) :
    (∃ id name, e.plugin = .check id ∧ r.register id = .ok (next, name)) ∨
    (e.plugin = .otherObject ∧ r = next) ∨
    ∃ own words, e.plugin = .broken own ∧ own.message = .ok words ∧ r = next := by
  unfold accept at h
  split at h
  next id hplugin =>
    cases hok : r.register id with
    | error failure => simp [hok, Except.map] at h
    | ok made =>
      obtain rfl : made.1 = next := by simpa [hok, Except.map] using h
      exact .inl ⟨id, made.2, hplugin, hok⟩
  next hplugin => exact .inr (.inl ⟨hplugin, Except.ok.inj h⟩)
  next own hplugin =>
    cases hwords : own.message with
    | error trouble => simp [hwords, Except.map] at h
    | ok words =>
      obtain rfl : r = next := by simpa [hwords, Except.map] using h
      exact .inr (.inr ⟨own, words, hplugin, hwords, rfl⟩)

theorem goThrough_cons (r : Registry) (e : EntryPoint) (es : List EntryPoint) :
    r.goThrough (e :: es) = (r.accept e).bind (·.goThrough es) := rfl

theorem goThrough_append (r : Registry) (es rest : List EntryPoint) :
    r.goThrough (es ++ rest) = (r.goThrough es).bind (·.goThrough rest) := List.foldlM_append

theorem goThrough_cons_eq_ok_iff (e : EntryPoint) (es : List EntryPoint) :
    r.goThrough (e :: es) = .ok next ↔ ∃ mid, r.accept e = .ok mid ∧ mid.goThrough es = .ok next := by
  rw [goThrough_cons]
  cases r.accept e <;> simp [Except.bind]

theorem loadFrom_cons_of_error (h : r.accept e = .error failure) (rest : List EntryPoint) :
    r.loadFrom (e :: rest) = (r, Traced.fail failure) := by
  cases (r.accept_eq_error_iff e failure).1 h with
  | clash hplugin hne hfind => simp [loadFrom, hplugin, register_of_other hfind hne]
  | wordless hplugin hwords => simp [loadFrom, hplugin, hwords]

theorem loadFrom_cons_of_ok (h : r.accept e = .ok next) (rest : List EntryPoint) :
    r.loadFrom (e :: rest) = ((next.loadFrom rest).1,
      ⟨e.report?.toList ++ (next.loadFrom rest).2.trace,
        (next.loadFrom rest).2.result.map (loadedNames [e] ++ ·)⟩) := by
  obtain ⟨label, plugin⟩ := e
  rcases accept_cases h with ⟨id, name, rfl, hok⟩ | ⟨rfl, rfl⟩ | ⟨own, words, rfl, hwords, rfl⟩
  · simp only [loadFrom, hok, Traced.bind_pure_eq]
    rfl
  · simp only [loadFrom, Traced.bind_pure_eq]
    rfl
  · simp only [loadFrom, hwords, Traced.warning, Traced.leave_bind]
    cases hrest : (r.loadFrom rest).2.result <;>
      simp [EntryPoint.report?, hwords, Except.toOption, loadedNames, EntryPoint.isBroken,
        Except.map]

/-- The plugins behind some that the loading came past are loaded as if those had been alone. -/
theorem loadFrom_append {es : List EntryPoint} (h : r.goThrough es = .ok mid)
    (rest : List EntryPoint) :
    r.loadFrom (es ++ rest) = ((mid.loadFrom rest).1,
      ⟨es.filterMap EntryPoint.report? ++ (mid.loadFrom rest).2.trace,
        (mid.loadFrom rest).2.result.map (loadedNames es ++ ·)⟩) := by
  -- Over the plugins that the loading came past, from the registry that each of them leaves.
  induction es generalizing r with
  | nil =>
    cases h
    cases hresult : (mid.loadFrom rest).2.result <;> simp [loadedNames, Except.map, ← hresult]
  | cons e es ih =>
    obtain ⟨next, hstep, hes⟩ := (goThrough_cons_eq_ok_iff e es).1 h
    rw [List.cons_append, loadFrom_cons_of_ok hstep, ih hes]
    cases hreport : e.report? <;> cases hbroken : e.isBroken <;>
      cases (mid.loadFrom rest).2.result <;> simp [loadedNames, hreport, hbroken, Except.map]

theorem loadFrom_of_goThrough {es : List EntryPoint} (h : r.goThrough es = .ok next) :
    r.loadFrom es = (next, ⟨es.filterMap EntryPoint.report?, .ok (loadedNames es)⟩) := by
  simpa [loadFrom, Except.map] using loadFrom_append h []

theorem loadFrom_of_stops {before : List EntryPoint} (h : r.goThrough before = .ok mid)
    (hstops : mid.Stops e failure) (later : List EntryPoint) :
    r.loadFrom (before ++ e :: later) =
      (mid, ⟨before.filterMap EntryPoint.report?, .error failure⟩) := by
  rw [loadFrom_append h, loadFrom_cons_of_error ((mid.accept_eq_error_iff e failure).2 hstops)]
  simp [Traced.fail, Except.map]

theorem goThrough_cases (r : Registry) (es : List EntryPoint) :
    (∃ next, r.goThrough es = .ok next) ∨
    ∃ before e later mid failure, es = before ++ e :: later ∧ r.goThrough before = .ok mid ∧
      mid.Stops e failure := by
  induction es generalizing r with
  | nil => exact .inl ⟨r, rfl⟩
  | cons e es ih =>
    cases hstep : r.accept e with
    | error failure =>
      exact .inr ⟨[], e, es, r, failure, rfl, rfl, (r.accept_eq_error_iff e failure).1 hstep⟩
    | ok next =>
      rcases ih next with ⟨last, hlast⟩ | ⟨before, e', later, mid, failure, rfl, hmid, hstops⟩
      · exact .inl ⟨last, (goThrough_cons_eq_ok_iff e es).2 ⟨next, hstep, hlast⟩⟩
      · exact .inr ⟨e :: before, e', later, mid, failure, rfl,
          (goThrough_cons_eq_ok_iff e before).2 ⟨next, hstep, hmid⟩, hstops⟩

theorem class?_eq_some_iff (e : EntryPoint) (id : ClassId) :
    e.class? = some id ↔ e.plugin = .check id := by
  unfold EntryPoint.class?
  split <;> simp_all

theorem registerAll_of_goThrough {es : List EntryPoint} (h : r.goThrough es = .ok next) :
    r.registerAll (es.filterMap EntryPoint.class?) = (next, .ok ()) := by
  induction es generalizing r with
  | nil =>
    cases h
    rfl
  | cons e es ih =>
    obtain ⟨mid, hstep, hes⟩ := (goThrough_cons_eq_ok_iff e es).1 h
    obtain ⟨label, plugin⟩ := e
    rcases accept_cases hstep with ⟨id, name, rfl, hok⟩ | ⟨rfl, rfl⟩ | ⟨own, words, rfl, -, rfl⟩
    · rw [List.filterMap_cons_some (show EntryPoint.class? _ = some id from rfl), registerAll, hok]
      exact ih hes
    · exact ih hes
    · exact ih hes

theorem exists_report_of_goThrough {es : List EntryPoint} (h : r.goThrough es = .ok next) :
    ∀ e ∈ es, e.isBroken = true → ∃ report, e.report? = some report := by
  induction es generalizing r with
  | nil => simp
  | cons e es ih =>
    obtain ⟨mid, hstep, hes⟩ := (goThrough_cons_eq_ok_iff e es).1 h
    rw [List.forall_mem_cons]
    refine ⟨fun hbroken => ?_, ih hes⟩
    rcases accept_cases hstep with
      ⟨id, name, hplugin, -⟩ | ⟨hplugin, -⟩ | ⟨own, words, hplugin, hwords, -⟩
    · simp [EntryPoint.isBroken, hplugin] at hbroken
    · simp [EntryPoint.isBroken, hplugin] at hbroken
    · simp [EntryPoint.report?, hplugin, hwords, Except.toOption]

/-- The registry once the checks of some plugins are registered, up to the first that is refused. -/
def after (r : Registry) (es : List EntryPoint) : Registry :=
  (r.registerAll (es.filterMap EntryPoint.class?)).1

theorem after_of_goThrough {es : List EntryPoint} (h : r.goThrough es = .ok next) :
    r.after es = next := by
  rw [after, registerAll_of_goThrough h]

/-- Behind some of the plugins comes one that ends the loading for this failure. -/
def Halts (r : Registry) (es before : List EntryPoint) (failure : Failure) : Prop :=
  ∃ e later, es = before ++ e :: later ∧ (r.after before).Stops e failure

theorem exists_goThrough_iff (r : Registry) (es : List EntryPoint) :
    (∃ next, r.goThrough es = .ok next) ↔ ∀ before failure, ¬ r.Halts es before failure := by
  constructor
  · intro h before failure hhalts
    obtain ⟨next, hnext⟩ := h
    obtain ⟨e, later, rfl, hstops⟩ := hhalts
    rw [goThrough_append] at hnext
    cases hmid : r.goThrough before with
    | error other => simp [hmid, Except.bind] at hnext
    | ok mid =>
      -- Had the plugins before it been gone through, this one would have ended the loading.
      rw [after_of_goThrough hmid, ← accept_eq_error_iff] at hstops
      simp [hmid, goThrough_cons, hstops, Except.bind] at hnext
  · intro hnone
    rcases r.goThrough_cases es with hall | ⟨before, e, later, mid, failure, rfl, hmid, hstops⟩
    · exact hall
    · rw [← after_of_goThrough hmid] at hstops
      exact absurd ⟨e, later, rfl, hstops⟩ (hnone before failure)

theorem mem_registerAll {ids : List ClassId} (h : (r.registerAll ids).2 = .ok ()) :
    ∀ id ∈ ids, ∃ name, (name, id) ∈ (r.registerAll ids).1.bindings := by
  induction ids generalizing r with
  | nil => simp
  | cons id ids ih =>
    rw [registerAll] at h ⊢
    cases hok : r.register id with
    | error failure => simp [hok] at h
    | ok made =>
      rw [hok] at h
      obtain ⟨-, hbound⟩ := extends_of_register hok
      rw [List.forall_mem_cons]
      exact ⟨⟨made.2, (extends_registerAll made.1 ids).mem hbound⟩, ih h⟩

def summary (names : List String) : List Event :=
  let row := ", ".intercalate names
  if names = [] then [] else [.record .info s!"Plugins de checks carregados: {row}"]

def opening (executable : String) : List Event :=
  [.record .info "Iniciando Liquid Language Server...",
    .record .info s!"Python executable: {executable}"]

theorem loadPlugins_eq (h : r.pluginsLoaded = false) (es : List EntryPoint) :
    r.loadPlugins es =
      ((loadFrom { r with pluginsLoaded := true } es).1,
        (loadFrom { r with pluginsLoaded := true } es).2 >>= fun names =>
          ⟨summary names, .ok names⟩) := by
  simp only [loadPlugins, h, Bool.false_eq_true, if_false]
  congr 2
  funext names
  by_cases hnone : names = []
  · simp only [summary, ne_eq, hnone, not_true_eq_false, if_false]
    rfl
  · simp only [summary, ne_eq, hnone, not_false_eq_true, if_true, Traced.info,
      Traced.leave_bind]
    rfl

/-- The first loading comes past all plugins, or it ends at the first that ends it. -/
theorem loadPlugins_cases (h : r.pluginsLoaded = false) (es : List EntryPoint) :
    (∃ next, goThrough { r with pluginsLoaded := true } es = .ok next ∧
      r.loadPlugins es = (next,
        ⟨es.filterMap EntryPoint.report? ++ summary (loadedNames es), .ok (loadedNames es)⟩)) ∨
    ∃ before e later mid failure, es = before ++ e :: later ∧
      goThrough { r with pluginsLoaded := true } before = .ok mid ∧ mid.Stops e failure ∧
      r.loadPlugins es = (mid, ⟨before.filterMap EntryPoint.report?, .error failure⟩) := by
  rw [loadPlugins_eq h]
  rcases goThrough_cases { r with pluginsLoaded := true } es with
    ⟨next, hnext⟩ | ⟨before, e, later, mid, failure, rfl, hmid, hstops⟩
  · refine .inl ⟨next, hnext, ?_⟩
    rw [loadFrom_of_goThrough hnext]
    rfl
  · refine .inr ⟨before, e, later, mid, failure, rfl, hmid, hstops, ?_⟩
    rw [loadFrom_of_stops hmid hstops]
    rfl

section StartUp

variable {α : Type} {r : Registry} {es : List EntryPoint} (executable : String) (listen : Traced α)

theorem startUp_of_ok {names : List String} (h : (r.loadPlugins es).2.result = .ok names) :
    (r.startUp executable es listen).2 = ⟨opening executable ++ (r.loadPlugins es).2.trace ++
      .record .info s!"Checks registrados: {listed (r.loadPlugins es).1.names}" :: listen.trace,
      listen.result⟩ := by
  simp only [startUp, Traced.info, Traced.leave_bind, Traced.bind_ok h]
  simp [opening]

theorem startUp_of_error {failure : Failure} (h : (r.loadPlugins es).2.result = .error failure) :
    (r.startUp executable es listen).2 =
      ⟨opening executable ++ (r.loadPlugins es).2.trace, .error failure⟩ := by
  simp only [startUp, Traced.info, Traced.leave_bind, Traced.bind_error h]
  simp [opening]

/-- The first loading goes through all plugins, reports each that is broken, and the server listens
once behind it, unless a plugin ends the loading; then the first such plugin does, and the server
does not listen. -/
theorem startUp_outcome (hfirst : r.pluginsLoaded = false) :
    let begun : Registry := { r with pluginsLoaded := true }
    let loaded := r.loadPlugins es
    let started := r.startUp executable es listen
    ((∀ before failure, ¬ begun.Halts es before failure) →
      loaded.2 = ⟨es.filterMap EntryPoint.report? ++ summary (loadedNames es), .ok (loadedNames es)⟩ ∧
      (∀ e ∈ es, e.isBroken = true → ∃ report, e.report? = some report) ∧
      (∀ e ∈ es, ∀ id, e.plugin = .check id → ∃ name, (name, id) ∈ loaded.1.bindings) ∧
      started.2 = ⟨opening executable ++ loaded.2.trace ++
        .record .info s!"Checks registrados: {listed loaded.1.names}" :: listen.trace,
        listen.result⟩) ∧
    ((∃ before failure, begun.Halts es before failure) →
      ∃ before failure, begun.Halts es before failure ∧
        (∀ earlier other, ¬ begun.Halts before earlier other) ∧
        loaded = (begun.after before, ⟨before.filterMap EntryPoint.report?, .error failure⟩) ∧
        started.2 = ⟨opening executable ++ before.filterMap EntryPoint.report?, .error failure⟩) := by
  intro begun loaded started
  rcases loadPlugins_cases hfirst es with
    ⟨next, hnext, hall⟩ | ⟨before, e, later, mid, failure, heq, hmid, hstops, hstopped⟩
  · have hnone := (begun.exists_goThrough_iff es).1 ⟨next, hnext⟩
    have hregistered := registerAll_of_goThrough hnext
    refine ⟨fun _ => ⟨congrArg Prod.snd hall, fun e he hbroken => ?_, fun e he id hplugin => ?_, ?_⟩,
      fun hhalts => ?_⟩
    · exact exists_report_of_goThrough hnext e he hbroken
    · have hmem := mem_registerAll (congrArg Prod.snd hregistered) id
        (List.mem_filterMap.2 ⟨e, he, (class?_eq_some_iff e id).2 hplugin⟩)
      rwa [hregistered, ← congrArg Prod.fst hall] at hmem
    · exact startUp_of_ok executable listen (congrArg (fun x => x.2.result) hall)
    · obtain ⟨before, failure, h⟩ := hhalts
      exact absurd h (hnone before failure)
  · obtain rfl : begun.after before = mid := after_of_goThrough hmid
    have hhalts : begun.Halts es before failure := ⟨e, later, heq, hstops⟩
    refine ⟨fun hnone => absurd hhalts (hnone before failure), fun _ =>
      ⟨before, failure, hhalts, (begun.exists_goThrough_iff before).1 ⟨_, hmid⟩, hstopped, ?_⟩⟩
    have hstarted := startUp_of_error executable listen (congrArg (fun x => x.2.result) hstopped)
    rwa [hstopped] at hstarted

end StartUp

def twins : Registry :=
  ofClasses [⟨"First", some "twin", none, [], none, none⟩,
    ⟨"Second", some "twin", none, [], none, none⟩]

def goodAndBroken : List EntryPoint :=
  [⟨"broken", .broken .notImplemented⟩, ⟨"first", .check 0⟩, ⟨"object", .otherObject⟩]

theorem startUp_past_broken :
    twins.pluginsLoaded = false ∧
      (∀ before failure, ¬ Halts { twins with pluginsLoaded := true } goodAndBroken before failure) ∧
      (twins.loadPlugins goodAndBroken).2.result = .ok ["first", "object"] ∧
      (twins.startUp "lean" goodAndBroken (Traced.call (.showLog .null))).2.calls =
        [.showLog .null] := by
  let listen : Traced Unit := Traced.call (.showLog .null)
  have hnone : ∀ before failure,
      ¬ Halts { twins with pluginsLoaded := true } goodAndBroken before failure :=
    (exists_goThrough_iff { twins with pluginsLoaded := true } goodAndBroken).1 ⟨_, rfl⟩
  obtain ⟨hloaded, -, -, hstarted⟩ :=
    (@startUp_outcome Unit twins goodAndBroken "lean" listen rfl).1 hnone
  refine ⟨rfl, hnone, congrArg Traced.result hloaded, ?_⟩
  rw [hstarted, hloaded]
  rfl

/-- What is met while a broken plugin is to be reported ends the loading. -/
example : (twins.loadPlugins [⟨"mute", .broken (.mute .runtime .notImplemented)⟩,
    ⟨"first", .check 0⟩]).2.result = .error .notImplemented := rfl

theorem not_loads_twins : ¬ ∀ (r : Registry) (es : List EntryPoint), r.pluginsLoaded = false →
    ∃ names, (r.loadPlugins es).2.result = .ok names := by
  intro h
  obtain ⟨names, hnames⟩ := h twins [⟨"first", .check 0⟩, ⟨"second", .check 1⟩] rfl
  have hresult : (twins.loadPlugins [⟨"first", .check 0⟩, ⟨"second", .check 1⟩]).2.result =
      .error (.nameTaken "twin") := by
    rfl
  rw [hresult] at hnames
  cases hnames

end Registry

end ThemeLint
