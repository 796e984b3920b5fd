import ThemeLint.Proofs.AnalysisOutcome
import ThemeLint.Proofs.EnabledChecks

set_option autoImplicit false

namespace ThemeLint

namespace Session

variable {s : Session} {c : Config} {view : ThemeView} {path : Path}

theorem offenses_result_of_outsider (hconfig : s.config = some c)
    (hview : (ThemeView.build s.disk c.root c.ignore).result = .ok view) (hout : path ∉ view.files) :
    (s.offenses path).2.result =
      if view.files = [] then .ok [] else (s.registry.checksFor c.enabled).map fun _ => [] := by
  rw [offenses_result, configFor, hconfig]
  simp only [Except.bind, findingsUnder_eq, hview, Analysis.run_eq, Analysis.Target.path_ofPath,
    Analysis.inspect_result, if_neg hout]
  split
  · rfl
  · cases s.registry.checksFor c.enabled <;> rfl

/-- Whatever happened in a session: once it has a configuration, nothing is found in a document that
is not one of the files of its project. The request is answered if the project has no files or all
enabled checks can be made, and fails for the first that cannot; which of the outsiders is asked
about does not matter. As long as no check is taken out, only a class that cannot be made is to
blame. -/
theorem offenses_of_outsider (disk : Disk) (classes : List CheckClass) (ops : List Operation)
    (c : Config) (view : ThemeView) (path : Path) :
    let s := (start disk (Registry.ofClasses classes)).run ops
    let result := (s.offenses path).2.result
    s.config = some c → (ThemeView.build s.disk c.root c.ignore).result = .ok view →
    path ∉ view.files →
    (∀ found, result = .ok found ↔ found = [] ∧
      (view.files = [] ∨ ∀ name ∈ c.enabled, ∃ check, s.registry.make name = .ok check)) ∧
    (∀ failure, result = .error failure ↔
      view.files ≠ [] ∧ s.registry.Denies c.enabled failure) ∧
    (∀ other ∉ view.files, (s.offenses other).2.result = result) ∧
    ((start disk (Registry.ofClasses classes)).KeepsChecks ops → ∀ failure,
      result = .error failure → s.registry.TroubledBy c.enabled failure) := by
  intro s result hconfig hview hout
  have hresult : result = if view.files = [] then .ok []
      else (s.registry.checksFor c.enabled).map fun _ => [] :=
    offenses_result_of_outsider hconfig hview hout
  have herror (failure : Failure) : result = .error failure ↔
      view.files ≠ [] ∧ s.registry.Denies c.enabled failure := by
    rw [hresult, ← Registry.checksFor_eq_error_iff]
    split
    next hempty => simp [hempty]
    next hfiles => simp [hfiles, map_eq_error_iff]
  refine ⟨fun found => ?_, herror, fun other hother => ?_, fun hkeeps failure hfailure => ?_⟩
  · rw [hresult, ← s.registry.exists_checksFor_eq_iff]
    split
    next hempty => simp [hempty, eq_comm]
    next hfiles => cases s.registry.checksFor c.enabled <;> simp [hfiles, Except.map, eq_comm]
  · rw [hresult]
    exact offenses_result_of_outsider hconfig hview hother
  · have hfinds : s.FindsEnabled := (findsEnabled_start disk classes).run hkeeps
    have hchecks := (s.registry.checksFor_eq_error_iff _ _).2 ((herror failure).1 hfailure).2
    exact Registry.failsAs_checksFor (hfinds.enabled c hconfig) failure hchecks

def outsider : Path := ⟨.root, ["q", "a.liquid"]⟩

def smallStart : Session :=
  start smallDisk (Registry.ofClasses (wordyRegistry (.str "found")).table.classes)

def smallHistory : List Operation := [.register 0, .resolve smallRoot]

theorem run_smallHistory :
    smallStart.run smallHistory = ⟨smallDisk, wordyRegistry (.str "found"), some smallConfig⟩ := by
  have hregistered : (smallStart.perform (.register 0)).1 =
      start smallDisk (wordyRegistry (.str "found")) := rfl
  rw [smallHistory, run_cons, hregistered]
  exact wordySession_eq _

theorem exists_view_smallDisk :
    ∃ view, (ThemeView.build smallDisk smallRoot []).result = .ok view ∧ view.files ≠ [] ∧
      outsider ∉ view.files := by
  obtain ⟨files, hview, hfiles⟩ := ThemeView.exists_build_eq
    (Disk.hasShortNames_ofDirectory isPlain_smallDisk) hasShortParts_smallRoot fits_smallDisk []
  refine ⟨_, hview, List.ne_nil_of_mem ((hfiles _).2 ⟨[("a.liquid" : WideText)], rfl, by decide,
    isThemeFile_smallDisk⟩), fun hin => ?_⟩
  obtain ⟨names, hpath, -⟩ := (hfiles outsider).1 hin
  have hfirst : (("q" : WideText) :: _) = ("p" : WideText) :: names := congrArg Path.parts hpath
  exact absurd (List.cons.inj hfirst).1 (by decide)

theorem offenses_of_small_outsider :
    (smallStart.run smallHistory).config = some smallConfig ∧
    (∃ view, (ThemeView.build smallDisk smallRoot []).result = .ok view ∧ outsider ∉ view.files) ∧
    ((smallStart.run smallHistory).offenses outsider).2.result = .ok [] := by
  obtain ⟨view, hview, hfiles, hout⟩ := exists_view_smallDisk
  have hconfig : (smallStart.run smallHistory).config = some smallConfig :=
    congrArg Session.config run_smallHistory
  have hbuilt : (ThemeView.build (smallStart.run smallHistory).disk smallConfig.root
      smallConfig.ignore).result = .ok view := by
    rw [run_smallHistory]
    exact hview
  have hmade : ∀ name ∈ smallConfig.enabled,
      ∃ check, (smallStart.run smallHistory).registry.make name = .ok check := by
    rw [run_smallHistory]
    exact (Registry.exists_checksFor_eq_iff _ _).1 ⟨_, checksFor_wordy _⟩
  obtain ⟨hanswer, -⟩ := offenses_of_outsider smallDisk _ smallHistory smallConfig view outsider
    hconfig hbuilt hout
  exact ⟨hconfig, ⟨view, hview, hout⟩, (hanswer []).2 ⟨rfl, .inr hmade⟩⟩

theorem not_spares_outsiders :
    ¬ ∀ (disk : Disk) (classes : List CheckClass) (ops : List Operation) (c : Config)
      (view : ThemeView) (path : Path),
      let s := (start disk (Registry.ofClasses classes)).run ops
      s.config = some c → (ThemeView.build s.disk c.root c.ignore).result = .ok view →
      path ∉ view.files → (s.offenses path).2.result = .ok [] := by
  intro h
  obtain ⟨view, hview, hfiles, hout⟩ := exists_view_smallDisk
  have hrun : smallStart.run (smallHistory ++ [.unregister "wordy"]) =
      ⟨smallDisk, (wordyRegistry (.str "found")).unregister "wordy", some smallConfig⟩ := by
    rw [run_snoc, run_smallHistory]
    rfl
  have hanswer := h smallDisk (wordyRegistry (.str "found")).table.classes
    (smallHistory ++ [.unregister "wordy"]) smallConfig view outsider
  rw [← smallStart, hrun] at hanswer
  have hempty := hanswer rfl hview hout
  rw [offenses_result_of_outsider rfl hview hout, if_neg hfiles] at hempty
  cases hempty

end Session

end ThemeLint
