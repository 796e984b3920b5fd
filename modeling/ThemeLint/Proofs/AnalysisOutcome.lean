import ThemeLint.Proofs.Diagnosis
import ThemeLint.Proofs.EngineFailures
import ThemeLint.Script

/-!
What an analysis comes to. For a file of the view there are six ways, told apart by what stops it
first: the path, the disk, a check that complains, a check that breaks, one that breaks so that there
are no words for it, or nothing. Most failures are the engine's; the others escape from where nobody
looks out for them: the making of the checks, the path of the file and the text of the report.
-/

set_option autoImplicit false

namespace ThemeLint

/-- What stands between the slashes of a text, but for nothing and single dots. -/
def Path.steps (s : List CodePoint) : List (List CodePoint) :=
  (Text.pieces (.char '/') s).filter fun step => step ≠ [] ∧ step ≠ [.char '.']

/-- Two texts spell one path if they start in the same place and take the same steps from there. -/
theorem Path.ofText_eq_iff (a b : WideText) :
    Path.ofText a = Path.ofText b ↔
      anchorOf a.points = anchorOf b.points ∧ steps a.points = steps b.points := by
  have hidle (step : List CodePoint) :
      (!isIdle ⟨step⟩) = decide (step ≠ [] ∧ step ≠ [.char '.']) := by
    have hhere : (⟨step⟩ : WideText) = here ↔ step = [.char '.'] :=
      ⟨fun h => congrArg WideText.points h, fun h => congrArg WideText.mk h⟩
    cases step <;> simp [isIdle, WideText.isEmpty, hhere]
  have hparts (t : WideText) : partsOf t.points = (steps t.points).map WideText.mk := by
    simp only [partsOf, steps, List.filter_map, Function.comp_def, hidle]
  have hinj : Function.Injective WideText.mk := fun _ _ h => congrArg WideText.points h
  rw [ofText, ofText, Path.mk.injEq, hparts, hparts, (List.map_injective_iff.2 hinj).eq_iff]

namespace Disk

theorem pathFault?_cases {p : Path} {fault : ReadFault} (h : pathFault? p = some fault) :
    (∃ half, fault = .unwritablePath half) ∨ fault = .nulInPath := by
  unfold pathFault? at h
  split at h
  next half _ => exact .inl ⟨half, (Option.some.inj h).symm⟩
  next =>
    split at h
    · exact .inr (Option.some.inj h).symm
    · cases h

theorem textAt_of_pathFault (d : Disk) {p : Path} {fault : ReadFault}
    (h : pathFault? p = some fault) : d.textAt p = .error fault := by
  simp [textAt, bytesAt, h]

theorem kind_of_textAt {d : Disk} {p : Path} {fault : ReadFault} (hpath : pathFault? p = none)
    (h : d.textAt p = .error fault) :
    fault.kind = .undecodable ∨ ∃ refusal, fault.kind = .system (some refusal) := by
  unfold textAt bytesAt at h
  rw [hpath] at h
  cases hnode : d.nodeAt p with
  | error why =>
    simp only [hnode] at h
    cases h
    exact .inr ⟨_, rfl⟩
  | ok node =>
    simp only [hnode] at h
    cases node with
    | file content =>
      simp only at h
      split at h
      · cases h
        exact .inl rfl
      · cases h
    | _ =>
      cases h
      exact .inr ⟨_, rfl⟩

end Disk

namespace Registry

variable {r : Registry}

/-- Why the checks of some names cannot all be made: nobody has registered the first of them that
cannot be made, or making it fails. -/
inductive Denies (r : Registry) (names : List String) : Failure → Prop where
  | missing {name : String} :
      IsFirst (fun name => ∃ failure, r.make name = .error failure) names name → name ∉ r.names →
      Denies r names (.unregistered name)
  | troubled {name : String} {id : ClassId} {failure : Failure} :
      IsFirst (fun name => ∃ failure, r.make name = .error failure) names name →
      r.find? name = some id → r.table.inherited CheckClass.trouble id = some failure →
      Denies r names failure

theorem checksFor_eq_error_iff (r : Registry) (names : List String) (failure : Failure) :
    r.checksFor names = .error failure ↔ r.Denies names failure := by
  rw [checksFor, mapM_eq_error_iff]
  constructor
  · intro h
    obtain ⟨name, hfirst, hmake⟩ := h
    rcases (r.make_eq_error_iff _ _).1 hmake with ⟨hmissing, rfl⟩ | ⟨id, hfind, htrouble⟩
    · exact .missing hfirst hmissing
    · exact .troubled hfirst hfind htrouble
  · intro h
    cases h with
    | missing hfirst hmissing =>
      exact ⟨_, hfirst, (r.make_eq_error_iff _ _).2 (.inl ⟨hmissing, rfl⟩)⟩
    | troubled hfirst hfind htrouble =>
      exact ⟨_, hfirst, (r.make_eq_error_iff _ _).2 (.inr ⟨_, hfind, htrouble⟩)⟩

theorem Consistent.name_of_make (h : r.Consistent) {name : String} {check : Check}
    (hmake : r.make name = .ok check) : check.name = name := by
  unfold make at hmake
  split at hmake
  next id hfind => exact h.make_name (mem_bindings_of_find? hfind) hmake
  next => cases hmake

end Registry

namespace Analysis

variable {d : Disk} {r : Registry} {view : ThemeView} {enabled : List String} {t : Target}

theorem readTarget_of_pathFault (d : Disk) {path : Path} {fault : ReadFault}
    (h : Disk.pathFault? path = some fault) : readTarget d path = .error (.read fault) := by
  rw [readTarget, d.textAt_of_pathFault h]
  rcases Disk.pathFault?_cases h with ⟨half, rfl⟩ | rfl <;> rfl

theorem readTarget_of_unreadable {path : Path} {fault : ReadFault}
    (hpath : Disk.pathFault? path = none) (h : d.textAt path = .error fault) :
    readTarget d path = .error (.unreadableTarget path fault) := by
  have hkind := Disk.kind_of_textAt hpath h
  rw [readTarget, h]
  cases fault with
  | file fault => rfl
  | notUtf8 fault => rfl
  | unwritablePath half => simp [ReadFault.kind] at hkind
  | nulInPath => simp [ReadFault.kind] at hkind

/-- The first check that fails does so in a way that is not the engine's and that there are no words
for: this is met in place of them. -/
def Wordless (file : ThemeFile) (checks : List Check) (trouble : Failure) : Prop :=
  ∃ c own, IsFirst (Fails file) checks c ∧ (c.analyse file).failure = some own ∧
    own.kind ≠ .engine ∧ own.message = .error trouble

/-- What the analysis of a file comes to, by the checks that are made for it. -/
inductive Outcome (d : Disk) (checks : List Check) (path : Path) :
    Except Failure (List Finding) → Prop where
  /-- The system cannot be asked for the path. -/
  | unaskable {fault : ReadFault} : Disk.pathFault? path = some fault →
      Outcome d checks path (.error (.read fault))
  /-- The file cannot be read, or its bytes are no text. -/
  | unreadable {fault : ReadFault} : Disk.pathFault? path = none → d.textAt path = .error fault →
      Outcome d checks path (.error (.unreadableTarget path fault))
  | findings {source : String} : d.textAt path = .ok source →
      (∀ c ∈ checks, ¬ Fails ⟨path, source⟩ c) →
      Outcome d checks path (.ok (kept ⟨path, source⟩ checks))
  /-- The first check that fails complains about the engine itself. -/
  | complaint {source : String} {c : Check} {own : Failure} : d.textAt path = .ok source →
      IsFirst (Fails ⟨path, source⟩) checks c → (c.analyse ⟨path, source⟩).failure = some own →
      own.kind = .engine → Outcome d checks path (.error own)
  /-- The first check that fails does so in another way, and that can be told. -/
  | broken {source words : String} {c : Check} {own : Failure} : d.textAt path = .ok source →
      IsFirst (Fails ⟨path, source⟩) checks c → (c.analyse ⟨path, source⟩).failure = some own →
      own.kind ≠ .engine → own.message = .ok words →
      Outcome d checks path (.error (.checkFailed c.name path own))
  | wordless {source : String} {trouble : Failure} : d.textAt path = .ok source →
      Wordless ⟨path, source⟩ checks trouble → Outcome d checks path (.error trouble)

theorem findAll_eq_ok_of_passes {file : ThemeFile} {checks : List Check}
    (h : ∀ c ∈ checks, ¬ Fails file c) : findAll file checks = .ok (yielded file checks) :=
  (findAll_eq_ok_iff file checks _).2 ⟨fun c hc => not_not.1 (h c hc), rfl⟩

theorem outcome_of_blame {source : String} {checks : List Check} {path : Path} {c : Check}
    {own : Failure} (hsource : d.textAt path = .ok source)
    (hfirst : IsFirst (Fails ⟨path, source⟩) checks c)
    (hown : (c.analyse ⟨path, source⟩).failure = some own) :
    Outcome d checks path (.error (blame c path own)) := by
  rcases blame_cases c path own with
    ⟨hkind, heq⟩ | ⟨hkind, ⟨words, hwords, heq⟩ | ⟨trouble, hwords, heq⟩⟩
  · rw [heq]
    exact .complaint hsource hfirst hown hkind
  · rw [heq]
    exact .broken hsource hfirst hown hkind hwords
  · rw [heq]
    exact .wordless hsource ⟨c, own, hfirst, hown, hkind, hwords⟩

theorem eq_iff_outcome (d : Disk) (checks : List Check) (path : Path)
    (x : Except Failure (List Finding)) :
    ((readTarget d path).bind fun file =>
      (findAll file checks).map (·.filter (concerns path))) = x ↔ Outcome d checks path x := by
  have hread {source : String} (hsource : d.textAt path = .ok source) :
      readTarget d path = .ok ⟨path, source⟩ := (readTarget_eq_ok_iff _ _ _).2 ⟨rfl, hsource⟩
  constructor
  · rintro rfl
    -- By what stops the analysis first: the path, the file, or a check.
    cases hpath : Disk.pathFault? path with
    | some fault =>
      rw [readTarget_of_pathFault d hpath]
      exact .unaskable hpath
    | none =>
      cases hsource : d.textAt path with
      | error fault =>
        rw [readTarget_of_unreadable hpath hsource]
        exact .unreadable hpath hsource
      | ok source =>
        rw [hread hsource]
        simp only [Except.bind]
        cases hfound : findAll ⟨path, source⟩ checks with
        | ok found =>
          obtain ⟨hall, rfl⟩ := (findAll_eq_ok_iff _ _ _).1 hfound
          exact .findings hsource fun c hc hfails => hfails (hall c hc)
        | error failure =>
          obtain ⟨c, own, hfirst, hown, rfl⟩ := (findAll_eq_error_iff _ _ _).1 hfound
          exact outcome_of_blame hsource hfirst hown
  · intro h
    -- The three ways in which a check stops it differ in the blame only.
    have blamed {source : String} {c : Check} {own : Failure} (hsource : d.textAt path = .ok source)
        (hfirst : IsFirst (Fails ⟨path, source⟩) checks c)
        (hown : (c.analyse ⟨path, source⟩).failure = some own) :
        ((readTarget d path).bind fun file =>
          (findAll file checks).map (·.filter (concerns path))) = .error (blame c path own) := by
      have hfound := (findAll_eq_error_iff ⟨path, source⟩ checks _).2 ⟨c, own, hfirst, hown, rfl⟩
      rw [hread hsource]
      simp only [Except.bind, hfound]
      rfl
    cases h with
    | unaskable hpath =>
      rw [readTarget_of_pathFault d hpath]
      rfl
    | unreadable hpath hsource =>
      rw [readTarget_of_unreadable hpath hsource]
      rfl
    | findings hsource hall =>
      rw [hread hsource]
      simp only [Except.bind, findAll_eq_ok_of_passes hall]
      rfl
    | complaint hsource hfirst hown hkind => rw [blamed hsource hfirst hown, blame_of_engine hkind]
    | broken hsource hfirst hown hkind hwords =>
      rw [blamed hsource hfirst hown, blame_of_words hkind hwords]
    | wordless hsource hwordless =>
      obtain ⟨c, own, hfirst, hown, hkind, hwords⟩ := hwordless
      rw [blamed hsource hfirst hown, blame_of_wordless hkind hwords]

theorem run_of_listed {checks : List Check} (hlisted : t.path ∈ view.files)
    (hchecks : r.checksFor enabled = .ok checks) :
    (run d r view enabled (.ok t)).result = (readTarget d t.path).bind fun file =>
      (findAll file checks).map (·.filter (concerns t.path)) := by
  rw [run_result d r view enabled checks hchecks, if_pos hlisted]

/-- Checks behind one that fails are not asked: without them the analysis comes to the same. -/
theorem run_of_fails (hlisted : t.path ∈ view.files) {before later : List String} {name : String}
    (hmade : ∀ n ∈ before ++ name :: later, ∃ check, r.make n = .ok check) {source : String}
    (hsource : d.textAt t.path = .ok source) {check : Check} (hcheck : r.make name = .ok check)
    (hfails : Fails ⟨t.path, source⟩ check) :
    (run d r view (before ++ [name]) (.ok t)).result =
      (run d r view (before ++ name :: later) (.ok t)).result := by
  obtain ⟨checks, hchecks⟩ := (r.exists_checksFor_eq_iff _).2 hmade
  obtain ⟨first, rest, hfirst, hrest, rfl⟩ := (mapM_append_eq_ok_iff _ _ _).1 hchecks
  obtain ⟨c, others, hc, hothers, rfl⟩ := (mapM_cons_eq_ok_iff _ _ _).1 hrest
  obtain rfl := Except.ok.inj (hc.symm.trans hcheck)
  have hcut : r.checksFor (before ++ [name]) = .ok (first ++ [c]) :=
    (mapM_append_eq_ok_iff _ _ _).2
      ⟨first, [c], hfirst, (mapM_cons_eq_ok_iff _ _ _).2 ⟨c, [], hc, rfl, rfl⟩, rfl⟩
  have hread := (readTarget_eq_ok_iff d t.path ⟨t.path, source⟩).2 ⟨rfl, hsource⟩
  rw [run_of_listed hlisted hchecks, run_of_listed hlisted hcut, hread]
  simp only [Except.bind, findAll_of_fails hfails first others]

theorem run_of_unreadable (hlisted : t.path ∈ view.files)
    (hmade : ∀ n ∈ enabled, ∃ check, r.make n = .ok check)
    (hunreadable : ∀ source, d.textAt t.path ≠ .ok source) :
    (run d r view [] (.ok t)).result = (run d r view enabled (.ok t)).result := by
  obtain ⟨checks, hchecks⟩ := (r.exists_checksFor_eq_iff _).2 hmade
  rw [run_of_listed hlisted hchecks, run_of_listed hlisted (show r.checksFor [] = .ok [] from rfl)]
  cases hread : readTarget d t.path with
  | error failure => rfl
  | ok file => exact absurd ((readTarget_eq_ok_iff d _ _).1 hread).2 (hunreadable _)

theorem concerns_iff (path : Path) (f : Finding) :
    concerns path f = true ↔ ∀ own, f.path = some own → own = path := by
  cases h : f.path <;> simp [concerns, h]

/-- The analysis of a file of the view, by checks that can all be made, comes to one of the outcomes
and to no other; if the system can be asked for the path, it fails for the engine, or for what is met
in place of a broken check's words. A file that gives no text is the system's or its bytes' fault,
and no check is asked about it; behind a check that fails none is. What is found concerns the file if
it names no path, or one that is spelled like that of the file up to slashes and single dots. -/
theorem outcome_of_listed (d : Disk) (r : Registry) (view : ThemeView) (enabled : List String)
    (t : Target) (hlisted : t.path ∈ view.files)
    (hmade : ∀ name ∈ enabled, ∃ check, r.make name = .ok check) :
    let result := (run d r view enabled (.ok t)).result
    (∃ checks, List.Forall₂ (fun name check => r.make name = .ok check) enabled checks ∧
      (∀ x, result = x ↔ Outcome d checks t.path x) ∧
      ∀ failure, result = .error failure → Disk.pathFault? t.path = none →
        failure.kind = .engine ∨
        ∃ source, d.textAt t.path = .ok source ∧ Wordless ⟨t.path, source⟩ checks failure) ∧
    (r.Consistent → ∀ name check, r.make name = .ok check → check.name = name) ∧
    (∀ fault, d.textAt t.path = .error fault → Disk.pathFault? t.path = none →
      fault.kind = .undecodable ∨ ∃ refusal, fault.kind = .system (some refusal)) ∧
    ((∀ source, d.textAt t.path ≠ .ok source) → (run d r view [] (.ok t)).result = result) ∧
    (∀ before name later source check, enabled = before ++ name :: later →
      d.textAt t.path = .ok source → r.make name = .ok check → Fails ⟨t.path, source⟩ check →
      (run d r view (before ++ [name]) (.ok t)).result = result) ∧
    ∀ (f : Finding) (text other : WideText), t.path = Path.ofText text →
      f.path = some (Path.ofText other) →
      (concerns t.path f = true ↔ Path.anchorOf other.points = Path.anchorOf text.points ∧
        Path.steps other.points = Path.steps text.points) := by
  intro result
  obtain ⟨checks, hchecks⟩ := (r.exists_checksFor_eq_iff _).2 hmade
  have houtcome (x : Except Failure (List Finding)) : result = x ↔ Outcome d checks t.path x := by
    rw [← eq_iff_outcome, ← run_of_listed hlisted hchecks]
  refine ⟨⟨checks, (mapM_eq_ok_iff _ _).1 hchecks, houtcome, fun failure hfailure hpath => ?_⟩,
    fun hconsistent name check => hconsistent.name_of_make,
    fun fault hfault hpath => Disk.kind_of_textAt hpath hfault, run_of_unreadable hlisted hmade,
    fun before name later source check heq hsource hcheck hfails => ?_,
    fun f text other htext hother => ?_⟩
  · cases (houtcome _).1 hfailure with
    | unaskable hfault =>
      rw [hpath] at hfault
      cases hfault
    | unreadable => exact .inl rfl
    | complaint _ _ _ hkind => exact .inl hkind
    | broken => exact .inl rfl
    | wordless hsource hwordless => exact .inr ⟨_, hsource, hwordless⟩
  · subst heq
    exact run_of_fails hlisted hmade hsource hcheck hfails
  · rw [concerns_iff, htext, ← Path.ofText_eq_iff]
    simp [hother]

def scripted (title name : String) (s : Script) : Check :=
  ⟨title, name, .str Severity.suggestion.name, s.run name (.str Severity.suggestion.name)⟩

def brittleScript : Script := [.measure, .fail (.own .value (.str "boom"))]

def brittleRegistry : Registry where
  table := ⟨[⟨"Sound", some "sound", none, [], some (Script.run [.measure]), none⟩,
    ⟨"Brittle", some "brittle", none, [], some brittleScript.run, none⟩]⟩
  bindings := [("sound", 0), ("brittle", 1)]
  pluginsLoaded := false

def smallFile : Path := ⟨.root, ["p", "a.liquid"]⟩

def smallView : ThemeView := ⟨Session.smallRoot, [smallFile]⟩

theorem make_sound : brittleRegistry.make "sound" = .ok (scripted "Sound" "sound" [.measure]) := rfl

theorem make_brittle :
    brittleRegistry.make "brittle" = .ok (scripted "Brittle" "brittle" brittleScript) := rfl

theorem outcome_of_brittle :
    smallFile ∈ smallView.files ∧
    (∀ name ∈ ["sound", "brittle", "sound"], ∃ check, brittleRegistry.make name = .ok check) ∧
    (run Session.smallDisk brittleRegistry smallView ["sound", "brittle", "sound"]
      (.ok (.ofPath smallFile))).result =
        .error (.checkFailed "brittle" smallFile (.own .value (.str "boom"))) := by
  have hlisted : smallFile ∈ smallView.files := List.mem_cons_self
  have hmade : ∀ name ∈ ["sound", "brittle", "sound"],
      ∃ check, brittleRegistry.make name = .ok check := by
    simp [make_sound, make_brittle]
  obtain ⟨⟨checks, hchecks, houtcome, -⟩, -⟩ := outcome_of_listed Session.smallDisk brittleRegistry
    smallView ["sound", "brittle", "sound"] (.ofPath smallFile) hlisted hmade
  obtain ⟨sound, rest, hsound, hrest, rfl⟩ := List.forall₂_cons_left_iff.1 hchecks
  obtain ⟨brittle, last, hbrittle, -, rfl⟩ := List.forall₂_cons_left_iff.1 hrest
  obtain rfl := Except.ok.inj (make_sound.symm.trans hsound)
  obtain rfl := Except.ok.inj (make_brittle.symm.trans hbrittle)
  have hpasses : ¬ Fails ⟨smallFile, ""⟩ (scripted "Sound" "sound" [.measure]) := fun h => h rfl
  have hfails : Fails ⟨smallFile, ""⟩ (scripted "Brittle" "brittle" brittleScript) :=
    Option.some_ne_none _
  have hfirst : IsFirst (Fails ⟨smallFile, ""⟩)
      (scripted "Sound" "sound" [.measure] :: scripted "Brittle" "brittle" brittleScript :: last)
      (scripted "Brittle" "brittle" brittleScript) :=
    ⟨[_], last, rfl, hfails, List.forall_mem_singleton.2 hpasses⟩
  have hown : ((scripted "Brittle" "brittle" brittleScript).analyse ⟨smallFile, ""⟩).failure =
      some (.own .value (.str "boom")) := rfl
  have hkind : (Failure.own .value (.str "boom")).kind ≠ .engine := nofun
  have hwords : (Failure.own .value (.str "boom")).message = .ok "boom" := rfl
  exact ⟨hlisted, hmade,
    (houtcome _).2 (.broken Session.textAt_smallDisk hfirst hown hkind hwords)⟩

def nulFile : Path := ⟨.root, ["p", "a\x00.liquid"]⟩

theorem pathFault?_nulFile : Disk.pathFault? nulFile = some .nulInPath := by decide

/-- The engine does not report every file that cannot be read: of one with a NUL in its path only
the reader's own failure is seen. -/
theorem not_reports_unreadable :
    ¬ ∀ (d : Disk) (r : Registry) (view : ThemeView) (enabled : List String) (t : Target)
      (fault : ReadFault), t.path ∈ view.files →
      (∀ name ∈ enabled, ∃ check, r.make name = .ok check) → d.textAt t.path = .error fault →
      ∃ failure, (run d r view enabled (.ok t)).result = .error failure ∧
        failure.kind = .engine := by
  intro h
  have hlisted : nulFile ∈ (⟨Session.smallRoot, [nulFile]⟩ : ThemeView).files := List.mem_cons_self
  obtain ⟨failure, hfailure, hkind⟩ := h Session.smallDisk (Registry.ofClasses [])
    ⟨Session.smallRoot, [nulFile]⟩ [] (.ofPath nulFile) .nulInPath hlisted nofun
    (Disk.textAt_of_pathFault _ pathFault?_nulFile)
  rw [run_of_listed hlisted (show (Registry.ofClasses []).checksFor [] = .ok [] from rfl),
    Target.path_ofPath, readTarget_of_pathFault _ pathFault?_nulFile] at hfailure
  cases hfailure
  cases hkind

/-- The failures of an analysis that are not the engine's. -/
inductive Escapes (d : Disk) (r : Registry) (view : ThemeView) (enabled : List String) (t : Target) :
    Failure → Prop where
  /-- Making a check fails, whatever the target is. -/
  | unmade {failure : Failure} : view.files ≠ [] → r.Denies enabled failure →
      failure.kind ≠ .engine → Escapes d r view enabled t failure
  /-- The system cannot be asked for the path of the target. -/
  | unaskable {fault : ReadFault} : t.path ∈ view.files →
      (∀ name ∈ enabled, ∃ check, r.make name = .ok check) → Disk.pathFault? t.path = some fault →
      Escapes d r view enabled t (.read fault)
  /-- A check breaks, and the report of that fails. -/
  | wordless {checks : List Check} {source : String} {trouble : Failure} : t.path ∈ view.files →
      r.checksFor enabled = .ok checks → d.textAt t.path = .ok source →
      Wordless ⟨t.path, source⟩ checks trouble → trouble.kind ≠ .engine →
      Escapes d r view enabled t trouble

theorem Escapes.kind_ne {failure : Failure} (h : Escapes d r view enabled t failure) :
    failure.kind ≠ .engine := by
  cases h with
  | unmade _ _ hkind => exact hkind
  | unaskable => exact ReadFault.kind_ne_engine _
  | wordless _ _ _ _ hkind => exact hkind

theorem run_of_escapes {failure : Failure} (h : Escapes d r view enabled t failure) :
    (run d r view enabled (.ok t)).result = .error failure := by
  cases h with
  | unmade hfiles hdenies =>
    rw [run_eq, if_neg hfiles, (r.checksFor_eq_error_iff _ _).2 hdenies]
    rfl
  | unaskable hlisted hmade hfault =>
    obtain ⟨checks, hchecks⟩ := (r.exists_checksFor_eq_iff _).2 hmade
    rw [run_of_listed hlisted hchecks, readTarget_of_pathFault d hfault]
    rfl
  | wordless hlisted hchecks hsource hwordless =>
    rw [run_of_listed hlisted hchecks, eq_iff_outcome]
    exact .wordless hsource hwordless

/-- Whatever the checks, the file and the target: an analysis that gives no findings fails for the
engine, unless its failure escapes; and what escapes always does, and is never the engine's. -/
theorem failure_of_run (d : Disk) (r : Registry) (view : ThemeView) (enabled : List String)
    (t : Target) :
    let result := (run d r view enabled (.ok t)).result
    (∀ failure, result = .error failure →
      failure.kind = .engine ∨ Escapes d r view enabled t failure) ∧
    ∀ failure, Escapes d r view enabled t failure →
      result = .error failure ∧ failure.kind ≠ .engine := by
  intro result
  refine ⟨fun failure hfailure => ?_, fun failure hescapes =>
    ⟨run_of_escapes hescapes, hescapes.kind_ne⟩⟩
  by_cases hkind : failure.kind = .engine
  · exact .inl hkind
  right
  simp only [result, run_eq] at hfailure
  split at hfailure
  · cases hfailure
  next hfiles =>
    cases hchecks : r.checksFor enabled with
    | error other =>
      rw [hchecks] at hfailure
      cases hfailure
      exact .unmade hfiles ((r.checksFor_eq_error_iff _ _).1 hchecks) hkind
    | ok checks =>
      rw [hchecks] at hfailure
      simp only [Except.bind, inspect_result] at hfailure
      split at hfailure
      next hlisted =>
        cases (eq_iff_outcome d checks t.path _).1 hfailure with
        | unaskable hfault =>
          exact .unaskable hlisted ((r.exists_checksFor_eq_iff _).1 ⟨checks, hchecks⟩) hfault
        | unreadable => exact absurd rfl hkind
        | complaint _ _ _ hengine => exact absurd hengine hkind
        | broken => exact absurd rfl hkind
        | wordless hsource hwordless => exact .wordless hlisted hchecks hsource hwordless hkind
      next => cases hfailure

def troubledRegistry : Registry where
  table := ⟨[⟨"Sound", some "sound", none, [], some (Script.run [.measure]), none⟩,
    ⟨"Troubled", some "troubled", none, [], some (Script.run [.measure]),
      some (.own .runtime (.str "boom"))⟩]⟩
  bindings := [("sound", 0), ("troubled", 1)]
  pluginsLoaded := false

theorem escapes_troubled (d : Disk) (t : Target) :
    Escapes d troubledRegistry smallView ["sound", "troubled"] t (.own .runtime (.str "boom")) := by
  have hmake : troubledRegistry.make "troubled" = .error (.own .runtime (.str "boom")) := rfl
  have hsound : ∀ name ∈ ["sound"], ¬ ∃ failure, troubledRegistry.make name = .error failure := by
    simp [show troubledRegistry.make "sound" = .ok (scripted "Sound" "sound" [.measure]) from rfl]
  exact .unmade (List.cons_ne_nil _ _)
    (.troubled ⟨["sound"], [], rfl, ⟨_, hmake⟩, hsound⟩ rfl rfl) nofun

theorem failure_of_troubled :
    Escapes Session.smallDisk troubledRegistry smallView ["sound", "troubled"]
      (.ofPath Session.smallRoot) (.own .runtime (.str "boom")) ∧
    (run Session.smallDisk troubledRegistry smallView ["sound", "troubled"]
      (.ok (.ofPath Session.smallRoot))).result = .error (.own .runtime (.str "boom")) :=
  ⟨escapes_troubled _ _, ((failure_of_run Session.smallDisk troubledRegistry smallView
    ["sound", "troubled"] (.ofPath Session.smallRoot)).2 _ (escapes_troubled _ _)).1⟩

theorem not_fails_as_engine :
    ¬ ∀ (d : Disk) (r : Registry) (view : ThemeView) (enabled : List String) (t : Target)
      (failure : Failure), (run d r view enabled (.ok t)).result = .error failure →
      failure.kind = .engine := by
  intro h
  have hescapes := escapes_troubled Session.smallDisk (.ofPath smallFile)
  exact hescapes.kind_ne (h _ _ _ _ _ _ (run_of_escapes hescapes))

end Analysis

end ThemeLint
