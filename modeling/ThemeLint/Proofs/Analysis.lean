import ThemeLint.Proofs.Traversal
import ThemeLint.Session

set_option autoImplicit false

namespace ThemeLint

theorem Registry.exists_checksFor_eq_iff (r : Registry) (names : List String) :
    (∃ checks, r.checksFor names = .ok checks) ↔ ∀ name ∈ names, ∃ check, r.make name = .ok check :=
  exists_mapM_eq_ok_iff names

namespace Analysis

def yielded (file : ThemeFile) (checks : List Check) : List Finding :=
  checks.flatMap fun c => (c.analyse file).found

def kept (file : ThemeFile) (checks : List Check) : List Finding :=
  (yielded file checks).filter (concerns file.path)

theorem findAll_eq_ok_iff (file : ThemeFile) (checks : List Check) (found : List Finding) :
    findAll file checks = .ok found ↔
      (∀ c ∈ checks, (c.analyse file).failure = none) ∧ found = yielded file checks := by
  induction checks generalizing found with
  | nil => simp [findAll, yielded, eq_comm]
  | cons c cs ih =>
    unfold findAll
    cases hc : (c.analyse file).failure with
    | some failure => simp [hc, throw, throwThe, MonadExceptOf.throw, bind, Except.bind]
    | none =>
      simp only [List.forall_mem_cons, hc, true_and]
      cases hcs : findAll file cs with
      | error failure =>
        have hno : ¬ ∀ c ∈ cs, (c.analyse file).failure = none := by
          intro h
          have := (ih (yielded file cs)).2 ⟨h, rfl⟩
          rw [hcs] at this
          cases this
        simp [hno, bind, Except.bind]
      | ok more =>
        obtain ⟨hall, rfl⟩ := (ih more).1 hcs
        simp only [yielded, List.flatMap_cons, bind, Except.bind, pure, Except.pure, Except.ok.injEq]
        constructor
        · intro heq
          subst heq
          exact ⟨hall, rfl⟩
        · intro h
          obtain ⟨-, rfl⟩ := h
          rfl

def Fails (file : ThemeFile) (c : Check) : Prop := (c.analyse file).failure ≠ none

theorem blame_of_engine {own : Failure} (h : own.kind = .engine) (c : Check) (path : Path) :
    blame c path own = own := by
  simp [blame, Failure.isEngine, h]

theorem blame_of_words {own : Failure} {words : String} (h : own.kind ≠ .engine)
    (hwords : own.message = .ok words) (c : Check) (path : Path) :
    blame c path own = .checkFailed c.name path own := by
  simp [blame, Failure.isEngine, h, hwords]

theorem blame_of_wordless {own trouble : Failure} (h : own.kind ≠ .engine)
    (hwords : own.message = .error trouble) (c : Check) (path : Path) :
    blame c path own = trouble := by
  simp [blame, Failure.isEngine, h, hwords]

theorem blame_cases (c : Check) (path : Path) (own : Failure) :
    (own.kind = .engine ∧ blame c path own = own) ∨
    own.kind ≠ .engine ∧
      ((∃ words, own.message = .ok words ∧ blame c path own = .checkFailed c.name path own) ∨
      ∃ trouble, own.message = .error trouble ∧ blame c path own = trouble) := by
  by_cases hkind : own.kind = .engine
  · exact .inl ⟨hkind, blame_of_engine hkind c path⟩
  · refine .inr ⟨hkind, ?_⟩
    cases hwords : own.message with
    | ok words => exact .inl ⟨words, rfl, blame_of_words hkind hwords c path⟩
    | error trouble => exact .inr ⟨trouble, rfl, blame_of_wordless hkind hwords c path⟩

/-- The first check that fails is to blame, and all findings are lost with it. -/
theorem findAll_eq_error_iff (file : ThemeFile) (checks : List Check) (failure : Failure) :
    findAll file checks = .error failure ↔ ∃ c own, IsFirst (Fails file) checks c ∧
      (c.analyse file).failure = some own ∧ failure = blame c file.path own := by
  induction checks with
  | nil => simp [findAll, not_isFirst_nil]
  | cons c cs ih =>
    unfold findAll
    cases hc : (c.analyse file).failure with
    | some own =>
      have hfails : Fails file c := by simp [Fails, hc]
      simp [isFirst_cons_of_pos hfails, hc, throw, throwThe, MonadExceptOf.throw, bind, Except.bind,
        eq_comm]
    | none =>
      have hpasses : ¬ Fails file c := by simp [Fails, hc]
      simp only [isFirst_cons_of_neg hpasses, ← ih, hc]
      cases findAll file cs <;> simp [bind, Except.bind, pure, Except.pure]

theorem findAll_of_fails {file : ThemeFile} {c : Check} (h : Fails file c)
    (before later : List Check) :
    findAll file (before ++ c :: later) = findAll file (before ++ [c]) := by
  induction before with
  | nil =>
    obtain ⟨own, hown⟩ := Option.ne_none_iff_exists'.1 h
    simp only [List.nil_append, findAll, hown]
    rfl
  | cons b before ih => simp only [List.cons_append, findAll, ih]

theorem inspect_result (d : Disk) (view : ThemeView) (checks : List Check) (path : Path) :
    (inspect d view checks path).result =
      if path ∈ view.files then
        (readTarget d path).bind fun file => (findAll file checks).map (·.filter (concerns path))
      else .ok [] := by
  unfold inspect ThemeView.contains
  by_cases hin : path ∈ view.files
  · rw [if_pos hin, List.contains_iff_mem.2 hin]
    simp only [Bool.not_true, Bool.false_eq_true, if_false, Traced.result_bind,
      Traced.result_ofExcept]
    cases readTarget d path with
    | error failure => rfl
    | ok file =>
      simp only [Except.bind]
      cases findAll file checks <;> rfl
  · have hcontains : view.files.contains path = false := by simpa using hin
    rw [if_neg hin, hcontains]
    rfl

@[simp] theorem Target.path_ofPath (p : Path) : (Target.ofPath p).path = p := rfl

/-- What an analysis comes to: a view without files gives nothing; for any other all checks are made
before the target is looked at. -/
theorem run_eq (d : Disk) (r : Registry) (view : ThemeView) (enabled : List String) (t : Target) :
    (run d r view enabled (.ok t)).result =
      if view.files = [] then .ok []
      else (r.checksFor enabled).bind fun checks => (inspect d view checks t.path).result := by
  have hiff : view.isEmpty = true ↔ view.files = [] := List.isEmpty_iff
  unfold run
  by_cases hempty : view.files = []
  · rw [if_pos hempty, if_pos (hiff.2 hempty)]
    rfl
  · rw [if_neg hempty, if_neg (mt hiff.1 hempty)]
    simp only [Traced.result_bind, Traced.result_ofExcept]
    cases r.checksFor enabled with
    | error failure => rfl
    | ok checks =>
      simp only [Except.bind]
      cases (inspect d view checks t.path).result <;> rfl

theorem run_result (d : Disk) (r : Registry) (view : ThemeView) (enabled : List String)
    (checks : List Check) (hchecks : r.checksFor enabled = .ok checks) (t : Target) :
    (run d r view enabled (.ok t)).result =
      if t.path ∈ view.files then
        (readTarget d t.path).bind fun file => (findAll file checks).map (·.filter (concerns t.path))
      else .ok [] := by
  rw [run_eq, ← inspect_result, hchecks]
  by_cases hempty : view.files = []
  · have hnot : t.path ∉ view.files := by
      rw [hempty]
      exact List.not_mem_nil
    rw [if_pos hempty, inspect_result, if_neg hnot]
  · rw [if_neg hempty]
    rfl

theorem mem_files_of_run {d : Disk} {r : Registry} {view : ThemeView} {enabled : List String}
    {path : Path} {found : List Finding}
    (h : (run d r view enabled (.ok (.ofPath path))).result = .ok found) (hsome : found ≠ []) :
    path ∈ view.files := by
  by_contra hnot
  rw [run_eq] at h
  split at h
  · exact hsome (Except.ok.inj h).symm
  · cases hchecks : r.checksFor enabled with
    | error failure =>
      rw [hchecks] at h
      cases h
    | ok checks =>
      rw [hchecks] at h
      simp only [Except.bind, Target.path_ofPath] at h
      rw [inspect_result, if_neg hnot] at h
      exact hsome (Except.ok.inj h).symm

theorem readTarget_eq_ok_iff (d : Disk) (path : Path) (file : ThemeFile) :
    readTarget d path = .ok file ↔ file.path = path ∧ d.textAt path = .ok file.source := by
  unfold readTarget
  obtain ⟨filePath, source⟩ := file
  cases h : d.textAt path with
  | ok text => simp [eq_comm]
  | error fault => cases fault <;> simp

end Analysis

theorem Session.findingsUnder_eq (s : Session) (c : Config) (path : Path) :
    (s.findingsUnder c path).result =
      (ThemeView.build s.disk c.root c.ignore).result.bind fun view =>
        (Analysis.run s.disk s.registry view c.enabled (.ok (.ofPath path))).result := by
  unfold findingsUnder
  rw [Traced.result_bind]
  congr 1
  funext view
  split
  next hempty =>
    rw [Analysis.run_eq, if_pos (List.isEmpty_iff.1 hempty)]
    rfl
  next => rfl

end ThemeLint
