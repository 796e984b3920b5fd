import Mathlib.Data.List.Infix
import ThemeLint.Proofs.Analysis
import ThemeLint.Proofs.Discovery
import ThemeLint.Proofs.Findings
import ThemeLint.Proofs.Listing

set_option autoImplicit false

namespace ThemeLint

theorem Path.here_notMem_parts_ofText (t : WideText) : Path.here ∉ (Path.ofText t).parts := by
  simp [Path.ofText, Path.partsOf, Path.isIdle]

/-- Some path is a theme file of a project, and does not lead back on its way below the root. -/
def Config.Covers (c : Config) (d : Disk) (p : Path) : Prop :=
  ∃ names, p = c.root.descend names ∧ Path.up ∉ names ∧
    ThemeView.IsThemeFile d c.root c.ignore names

namespace Session

theorem documentOf_given {params uri : Json} (h : documentOf params = .ok uri) :
    documentOf (if params.holds then params else .obj []) = .ok uri := by
  cases params with
  | obj members =>
    cases members with
    | nil => exact h
    | cons member members => exact h
  | _ => cases h

theorem dispatch_result (s : Session) {method : Method} (hmethod : method.diagnoses = true)
    (id : Json) {params : Json} {uri : String} (h : documentOf params = .ok (.str uri)) :
    (s.dispatch (.str method.name) id params).2.result =
      (s.diagnosticsOf uri).map (Payload.publish uri) := by
  rw [dispatch_name, answer_of_diagnoses s hmethod, diagnoseIn_result, documentOf_given h]
  rfl

section

variable {s : Session} {c : Config} {checks : List Check} (htree : s.disk.tree.HasShortNames)
  (hroot : c.root.HasShortParts) (hfits : s.disk.Fits c.root)
  (hchecks : s.registry.checksFor c.enabled = .ok checks)

include htree hroot hfits hchecks

theorem findingsUnder_result (path : Path) :
    ∃ files : List Path, (path ∈ files ↔ ∃ names, path = c.root.descend names ∧
        (∀ name ∈ names, name ≠ Path.here ∧ name ≠ Path.up) ∧
        ThemeView.IsThemeFile s.disk c.root c.ignore names) ∧
      (s.findingsUnder c path).result =
        if path ∈ files then
          (Analysis.readTarget s.disk path).bind fun file =>
            (Analysis.findAll file checks).map (·.filter (Analysis.concerns path))
        else .ok [] := by
  obtain ⟨files, hview, hfiles⟩ := ThemeView.exists_build_eq htree hroot hfits c.ignore
  refine ⟨files, hfiles path, ?_⟩
  rw [findingsUnder_eq, hview]
  exact Analysis.run_result s.disk s.registry ⟨c.root, files⟩ c.enabled checks hchecks (.ofPath path)

theorem findingsUnder_of_covers {text : WideText} (hcovers : c.Covers s.disk (Path.ofText text)) :
    (s.findingsUnder c (Path.ofText text)).result =
      (Analysis.readTarget s.disk (Path.ofText text)).bind fun file =>
        (Analysis.findAll file checks).map
          (·.filter (Analysis.concerns (Path.ofText text))) := by
  obtain ⟨files, hfiles, hresult⟩ := findingsUnder_result htree hroot hfits hchecks (Path.ofText text)
  rw [hresult, if_pos]
  obtain ⟨names, hpath, hup, hfile⟩ := hcovers
  refine hfiles.2 ⟨names, hpath, fun name hname => ⟨?_, ?_⟩, hfile⟩
  · intro heq
    subst heq
    refine Path.here_notMem_parts_ofText text ?_
    rw [hpath]
    exact List.mem_append_right _ hname
  · intro heq
    subst heq
    exact hup hname

theorem findingsUnder_of_not_covers {path : Path} (hcovers : ¬ c.Covers s.disk path) :
    (s.findingsUnder c path).result = .ok [] := by
  obtain ⟨files, hfiles, hresult⟩ := findingsUnder_result htree hroot hfits hchecks path
  rw [hresult, if_neg]
  intro hin
  obtain ⟨names, hpath, hplain, hfile⟩ := hfiles.1 hin
  exact hcovers ⟨names, hpath, fun hup => (hplain _ hup).2 rfl, hfile⟩

end

theorem dispatch_of_resolve {s : Session} {uri text : String} {c : Config}
    (huri : Uri.documentPath uri = .ok text)
    (hconfig : (s.resolve (Path.ofText text)).2.result = .ok c)
    {method : Method} (hmethod : method.diagnoses = true) (id : Json) {params : Json}
    (hparams : documentOf params = .ok (.str uri)) :
    (s.dispatch (.str method.name) id params).2.result =
      ((s.findingsUnder c (Path.ofText text)).result.bind Diagnostic.ofFindings).map
        (Payload.publish uri) := by
  have hdiagnostics : s.diagnosticsOf uri =
      (s.findingsUnder c (Path.ofText text)).result.bind Diagnostic.ofFindings := by
    rw [(s.resolve_eq _).2] at hconfig
    simp only [diagnosticsOf, huri, offenses_result, hconfig]
    rfl
  rw [dispatch_result s hmethod id hparams, hdiagnostics]

/-- Nothing stands in the way of the diagnostics of a theme file: it can be read, no check fails on
it, and what concerns it can be shown. -/
structure IsClear (s : Session) (checks : List Check) (file : ThemeFile) : Prop where
  readable : s.disk.textAt file.path = .ok file.source
  unfailing : ∀ check ∈ checks, (check.analyse file).failure = none
  presentable : ∀ f ∈ Analysis.kept file checks, f.IsPresentable

theorem diagnostics_of_covers {s : Session} {c : Config} {checks : List Check} {text : WideText}
    (htree : s.disk.tree.HasShortNames) (hroot : c.root.HasShortParts) (hfits : s.disk.Fits c.root)
    (hchecks : s.registry.checksFor c.enabled = .ok checks)
    (hcovers : c.Covers s.disk (Path.ofText text)) (ds : List Diagnostic) :
    (s.findingsUnder c (Path.ofText text)).result.bind Diagnostic.ofFindings = .ok ds ↔
      ∃ source, s.IsClear checks ⟨Path.ofText text, source⟩ ∧
        Diagnostic.ofFindings (Analysis.kept ⟨Path.ofText text, source⟩ checks) = .ok ds := by
  rw [findingsUnder_of_covers htree hroot hfits hchecks hcovers]
  constructor
  · intro h
    cases hread : Analysis.readTarget s.disk (Path.ofText text) with
    | error failure => rw [hread] at h; cases h
    | ok file =>
      obtain ⟨path, source⟩ := file
      obtain ⟨rfl, hsource⟩ := (Analysis.readTarget_eq_ok_iff _ _ _).1 hread
      cases hfound : Analysis.findAll ⟨Path.ofText text, source⟩ checks with
      | error failure => simp [hread, hfound, Except.bind, Except.map] at h
      | ok found =>
        obtain ⟨hunfailing, rfl⟩ := (Analysis.findAll_eq_ok_iff _ _ _).1 hfound
        simp only [hread, hfound, Except.bind, Except.map] at h
        exact ⟨source, ⟨hsource, hunfailing,
          (Diagnostic.exists_ofFindings_eq_iff _).1 ⟨ds, h⟩⟩, h⟩
  · intro h
    obtain ⟨source, hclear, hds⟩ := h
    have hread := (Analysis.readTarget_eq_ok_iff s.disk (Path.ofText text)
      ⟨Path.ofText text, source⟩).2 ⟨rfl, hclear.readable⟩
    have hfound := (Analysis.findAll_eq_ok_iff ⟨Path.ofText text, source⟩ checks _).2
      ⟨hclear.unfailing, rfl⟩
    simp only [hread, hfound, Except.bind, Except.map]
    exact hds

def smallDisk : Disk := Disk.ofDirectory "p" (projectEntries ["a.liquid"])

def smallRoot : Path := ⟨.root, ["p"]⟩

def smallConfig : Config := ⟨smallRoot, ["wordy"], [], none⟩

def wordyCheck (words : Json) : Check :=
  ⟨"Wordy", "wordy", .str Severity.suggestion.name, fun file =>
    ⟨[offense "wordy" (.str Severity.suggestion.name) file words (0, 0) (0, 1)], none⟩⟩

def wordyRegistry (words : Json) : Registry where
  table := ⟨[⟨"Wordy", some "wordy", none, [],
    some fun name severity file => ⟨[offense name severity file words (0, 0) (0, 1)], none⟩, none⟩]⟩
  bindings := [("wordy", 0)]
  pluginsLoaded := false

def wordySession (words : Json) : Session :=
  (start smallDisk (wordyRegistry words)).run [.resolve smallRoot]

theorem isPlain_smallDisk : Disk.IsPlain "p" (projectEntries ["a.liquid"]) where
  names := by decide
  distinct := by decide
  nodes := by decide

theorem isTooLong_smallRoot : Disk.isTooLong smallRoot = false := by decide

theorem usable_smallMarker :
    (smallRoot.child Config.fileName).parts.all (·.points.all Disk.isNameable) = true ∧
      Disk.isTooLong (smallRoot.child Config.fileName) = false := by
  decide

theorem hasShortParts_smallRoot : smallRoot.HasShortParts := by
  unfold Path.HasShortParts
  decide

theorem fits_smallDisk : smallDisk.Fits smallRoot where
  root_short := isTooLong_smallRoot
  below_short := by
    have hroot : smallDisk.locate smallRoot = .ok ["p"] :=
      Disk.locate_ofDirectory isPlain_smallDisk 0 rfl isTooLong_smallRoot
        (Disk.get?_ofDirectory isPlain_smallDisk) rfl
    intro loc hloc names node hentry
    obtain rfl := Except.ok.inj (hroot.symm.trans hloc)
    have hnames : names = [] ∨ names = [(Config.fileName : WideText)] ∨
        names = [("a.liquid" : WideText)] := by
      rw [smallDisk, Disk.entries_ofDirectory isPlain_smallDisk] at hentry
      simp [projectEntries] at hentry
      exact hentry.imp And.left (Or.imp And.left And.left)
    rcases hnames with rfl | rfl | rfl <;> decide

theorem checksFor_wordy (words : Json) :
    (wordyRegistry words).checksFor ["wordy"] = .ok [wordyCheck words] := by
  have hmake : (wordyRegistry words).make "wordy" = .ok (wordyCheck words) := by
    simp [Registry.make, Registry.find?, wordyRegistry, ClassTable.make, ClassTable.inherited,
      ClassTable.get?, ClassTable.nameOf, ClassTable.severityOf, ClassTable.titleOf, wordyCheck]
  simp [Registry.checksFor, hmake]

theorem wordySession_eq (words : Json) :
    wordySession words = ⟨smallDisk, wordyRegistry words, some smallConfig⟩ :=
  run_resolve_project isPlain_smallDisk 0 rfl usable_smallMarker isTooLong_smallRoot _

theorem kept_wordy (words : Json) (file : ThemeFile) :
    Analysis.kept file [wordyCheck words] =
      [offense "wordy" (.str Severity.suggestion.name) file words (0, 0) (0, 1)] := by
  simp [Analysis.kept, Analysis.yielded, wordyCheck, Analysis.concerns, offense]

theorem hasCoordinates_wordy (words : Json) (file : ThemeFile) :
    ∀ f ∈ Analysis.kept file [wordyCheck words], f.HasCoordinates := by
  rw [kept_wordy]
  intro f hf
  rw [List.mem_singleton.1 hf]
  exact hasCoordinates_offense _ _ _ _ (by decide) (by decide)

theorem unfailing_wordy (words : Json) (file : ThemeFile) :
    ∀ check ∈ [wordyCheck words], (check.analyse file).failure = none := by
  intro check hcheck
  rw [List.mem_singleton.1 hcheck]
  rfl

theorem isThemeFile_smallDisk :
    ThemeView.IsThemeFile smallDisk smallRoot [] [("a.liquid" : WideText)] where
  root_directory := isDirectory_project isPlain_smallDisk 0 rfl usable_smallMarker
    isTooLong_smallRoot
  nonempty := by simp
  directories := by
    intro front hfront hpre hne
    have hinits := (List.mem_inits _ _).2 hpre
    simp [hfront, hne] at hinits
  file := isA_project_file isPlain_smallDisk 0 List.mem_cons_self rfl (by decide) _
  ending := ⟨"a.liquid", rfl, ".liquid", by decide, by decide⟩
  kept := by simp

theorem textAt_smallDisk : smallDisk.textAt ⟨.root, ["p", "a.liquid"]⟩ = .ok "" :=
  textAt_project_file isPlain_smallDisk 0 List.mem_cons_self rfl (by decide) (by decide)

/-- The same answer for any names that lead from the root to a theme file, with no word on names
that lead back, on how long the paths of the project are and on what the messages are. -/
def AnswersRegardless (s : Session) (uri : String) : Prop :=
  ∀ (text : String) (c : Config) (checks : List Check) (names : List WideText) (source : String),
    Uri.documentPath uri = .ok text → (s.resolve (Path.ofText text)).2.result = .ok c →
    s.registry.checksFor c.enabled = .ok checks → s.disk.tree.HasShortNames →
    c.root.HasShortParts → (Path.ofText text).HasShortParts →
    Path.ofText text = c.root.descend names →
    ThemeView.IsThemeFile s.disk c.root c.ignore names →
    s.disk.textAt (Path.ofText text) = .ok source →
    (∀ check ∈ checks, (check.analyse ⟨Path.ofText text, source⟩).failure = none) →
    (∀ f ∈ Analysis.kept ⟨Path.ofText text, source⟩ checks, f.HasCoordinates) →
    ∃ ds, Diagnostic.ofFindings (Analysis.kept ⟨Path.ofText text, source⟩ checks) = .ok ds ∧
      ∀ method : Method, method.diagnoses = true → ∀ id params,
        documentOf params = .ok (.str uri) →
        (s.dispatch (.str method.name) id params).2.result = .ok (.publish uri ds)

theorem not_answers_wordless : ¬ (wordySession .null).AnswersRegardless "file:///p/a.liquid" := by
  rw [wordySession_eq]
  intro h
  obtain ⟨ds, hds, -⟩ := h "/p/a.liquid" smallConfig [wordyCheck .null] [("a.liquid" : WideText)] ""
    (by decide) rfl (checksFor_wordy .null) (Disk.hasShortNames_ofDirectory isPlain_smallDisk)
    hasShortParts_smallRoot (by unfold Path.HasShortParts; decide) (by decide)
    isThemeFile_smallDisk textAt_smallDisk (unfailing_wordy _ _) (hasCoordinates_wordy _ _)
  have hall := (Diagnostic.exists_ofFindings_eq_iff _).1 ⟨ds, hds⟩
  rw [kept_wordy] at hall
  obtain ⟨-, text, htext⟩ := hall _ (List.mem_singleton.2 rfl)
  cases htext

theorem isThemeFile_back : ThemeView.IsThemeFile smallDisk smallRoot []
    [Path.up, ("p" : WideText), ("a.liquid" : WideText)] where
  root_directory := isThemeFile_smallDisk.root_directory
  nonempty := by simp
  directories := by
    have hget := Disk.get?_ofDirectory isPlain_smallDisk
    have hback : smallDisk.standsAt (smallRoot.descend [Path.up]) = some .directory := by
      have hlocate : smallDisk.locate (smallRoot.descend [Path.up]).parent = .ok ["p"] :=
        Disk.locate_ofDirectory isPlain_smallDisk 0 rfl isTooLong_smallRoot hget rfl
      have hlast : (smallRoot.descend [Path.up]).parts.getLast? = some Path.up := rfl
      have hlen : Disk.isTooLong (smallRoot.descend [Path.up]) = false := by decide
      unfold Disk.standsAt
      rw [hlen, hlast, hlocate]
      simp [smallDisk, hget]
    have hforth : smallDisk.standsAt (smallRoot.descend [Path.up, ("p" : WideText)]) =
        some .directory := by
      have hlocate : smallDisk.locate (smallRoot.descend [Path.up, ("p" : WideText)]).parent =
          .ok [] :=
        Disk.locate_ofDirectory isPlain_smallDisk 1 rfl (by decide) rfl rfl
      have hlast : (smallRoot.descend [Path.up, ("p" : WideText)]).parts.getLast? =
          some ("p" : WideText) := rfl
      have hlen : Disk.isTooLong (smallRoot.descend [Path.up, ("p" : WideText)]) = false := by decide
      have hplain : ¬ (("p" : WideText) = Path.here ∨ ("p" : WideText) = Path.up) := by decide
      unfold Disk.standsAt
      rw [hlen, hlast, hlocate]
      simp [smallDisk, hget, hplain]
    intro front hfront hpre hne
    have hcases : front = [Path.up] ∨ front = [Path.up, ("p" : WideText)] := by
      have hinits := (List.mem_inits _ _).2 hpre
      simpa [hfront, hne] using hinits
    rcases hcases with rfl | rfl
    · exact hback
    · exact hforth
  file := isA_project_file isPlain_smallDisk 1 List.mem_cons_self rfl (by decide) _
  ending := ⟨"a.liquid", rfl, ".liquid", by decide, by decide⟩
  kept := by simp

theorem not_answers_back :
    ¬ (wordySession (.str "found")).AnswersRegardless "file:///p/../p/a.liquid" := by
  rw [wordySession_eq]
  intro h
  obtain ⟨ds, hds, hreply⟩ := h "/p/../p/a.liquid" smallConfig [wordyCheck (.str "found")]
    [Path.up, ("p" : WideText), ("a.liquid" : WideText)] "" (by decide) rfl (checksFor_wordy _)
    (Disk.hasShortNames_ofDirectory isPlain_smallDisk) hasShortParts_smallRoot
    (by unfold Path.HasShortParts; decide) (by decide) isThemeFile_back
    (textAt_project_file isPlain_smallDisk 1 List.mem_cons_self rfl (by decide)
      (by decide))
    (unfailing_wordy _ _) (hasCoordinates_wordy _ _)
  have hcovers : ¬ smallConfig.Covers smallDisk (Path.ofText "/p/../p/a.liquid") := by
    have hparts : (Path.ofText "/p/../p/a.liquid").parts = smallConfig.root.parts ++
        [Path.up, ("p" : WideText), ("a.liquid" : WideText)] := by decide
    intro h
    obtain ⟨names, hpath, hup, -⟩ := h
    rw [hpath] at hparts
    rw [List.append_cancel_left hparts] at hup
    exact hup (by simp)
  have hfound := findingsUnder_of_not_covers
    (s := ⟨smallDisk, wordyRegistry (.str "found"), some smallConfig⟩)
    (Disk.hasShortNames_ofDirectory isPlain_smallDisk) hasShortParts_smallRoot fits_smallDisk
    (checksFor_wordy _) hcovers
  have hsaid := dispatch_of_resolve
    (s := ⟨smallDisk, wordyRegistry (.str "found"), some smallConfig⟩) (c := smallConfig)
    (show Uri.documentPath "file:///p/../p/a.liquid" = .ok "/p/../p/a.liquid" by decide) rfl
    (show Method.didOpen.diagnoses = true from rfl) .null
    (show documentOf (documentParams (.str "file:///p/../p/a.liquid")) = .ok (.str _) from rfl)
  rw [hreply .didOpen rfl .null (documentParams (.str "file:///p/../p/a.liquid")) rfl,
    hfound] at hsaid
  have hnone : ds = [] := by
    simpa [Payload.publish, Except.bind, Except.map, Diagnostic.ofFindings, pure, Except.pure]
      using hsaid
  rw [hnone, kept_wordy, Diagnostic.ofFindings, mapM_cons_eq_ok_iff] at hds
  obtain ⟨d, ds, -, -, heq⟩ := hds
  cases heq

def longChars : List Char := List.replicate 60 '𐀀'

def longName : WideText := ⟨longChars.map .char⟩

def longFile : WideText := ⟨(longChars ++ ".liquid".toList).map .char⟩

def longDisk : Disk := Disk.ofDirectory longName (projectEntries [longFile, "a.liquid"])

/-- A root that is reached by going into a directory and back, again and again. Its path is almost
too long, and that of the file with the longest name is. -/
def longRoot : Path := ⟨.relative, (List.replicate 15 [longName, Path.up]).flatten ++ [longName]⟩

def longUriChars : List Char :=
  (List.replicate 15 (longChars ++ ['/', '.', '.', '/'])).flatten ++ longChars ++ "/a.liquid".toList

def longUri : String := String.ofList longUriChars

def longSession : Session := (start longDisk (Registry.ofClasses [])).run [.resolve longRoot]

theorem isPlain_longDisk : Disk.IsPlain longName (projectEntries [longFile, "a.liquid"]) where
  names := by decide +kernel
  distinct := by decide +kernel
  nodes := by decide

theorem longRoot_paths :
    (longRoot.parts.all (·.points.all Disk.isNameable) = true ∧
      (∀ part ∈ longRoot.parts, nameSize part ≤ nameLimit)) ∧
    (Disk.isTooLong longRoot = false ∧ Disk.isTooLong (longRoot.child Config.fileName) = false ∧
      Disk.isTooLong (longRoot.child "a.liquid") = false ∧
      Disk.isTooLong (longRoot.child longFile) = true) ∧
    Path.ofText ⟨longUriChars.map .char⟩ = longRoot.child "a.liquid" ∧
    Uri.fileScheme.isPrefixOf longUriChars = false := by
  decide +kernel

theorem usable_longChild {name : WideText} (hname : name.points.all Disk.isNameable = true)
    (hlen : Disk.isTooLong (longRoot.child name) = false) :
    (longRoot.child name).parts.all (·.points.all Disk.isNameable) = true ∧
      Disk.isTooLong (longRoot.child name) = false := by
  refine ⟨?_, hlen⟩
  simp only [Path.child, List.all_append, longRoot_paths.1.1]
  simp [hname]

theorem documentPath_longUri : Uri.documentPath longUri = .ok longUri := by
  obtain ⟨-, -, -, hscheme⟩ := longRoot_paths
  simp [Uri.documentPath, longUri, hscheme]

theorem ofText_longUri : Path.ofText longUri = longRoot.child "a.liquid" := by
  obtain ⟨-, -, htext, -⟩ := longRoot_paths
  rw [← htext, longUri, WideText.ofString, String.toList_ofList]

theorem longSession_eq :
    longSession = ⟨longDisk, Registry.ofClasses [], some ⟨longRoot, [], [], none⟩⟩ := by
  obtain ⟨-, ⟨hroot, hmarker, -, -⟩, -⟩ := longRoot_paths
  exact run_resolve_project isPlain_longDisk 15 rfl (usable_longChild (by decide) hmarker) hroot _

theorem isDirectory_longRoot : longDisk.isDirectory longRoot = .ok true := by
  obtain ⟨-, ⟨hroot, hmarker, -, -⟩, -⟩ := longRoot_paths
  exact isDirectory_project isPlain_longDisk 15 rfl (usable_longChild (by decide) hmarker) hroot

theorem isThemeFile_longDisk :
    ThemeView.IsThemeFile longDisk longRoot [] [("a.liquid" : WideText)] where
  root_directory := isDirectory_longRoot
  nonempty := by simp
  directories := by
    intro front hfront hpre hne
    have hinits := (List.mem_inits _ _).2 hpre
    simp [hfront, hne] at hinits
  file := by
    obtain ⟨-, ⟨-, -, hfile, -⟩, -⟩ := longRoot_paths
    exact isA_project_file isPlain_longDisk 15 (List.mem_cons_of_mem _ List.mem_cons_self)
      (List.append_assoc _ _ _) (usable_longChild (by decide) hfile) _
  ending := ⟨"a.liquid", rfl, ".liquid", by decide, by decide⟩
  kept := by simp

theorem list_longDisk : ThemeView.list longDisk longRoot [] ThemeView.endings =
    .error (.read (.file ⟨.nameTooLong, (longRoot.child longFile).text⟩)) := by
  obtain ⟨⟨hnameable, -⟩, ⟨hroot, -, -, hlong⟩, -⟩ := longRoot_paths
  have hlocate : longDisk.locate longRoot = .ok [longName] :=
    Disk.locate_ofDirectory isPlain_longDisk 15 rfl hroot (Disk.get?_ofDirectory isPlain_longDisk) rfl
  have hfile : longDisk.isFile (longRoot.child longFile) =
      .error ⟨.nameTooLong, (longRoot.child longFile).text⟩ := by
    refine Disk.isA_of_isTooLong _ _ ?_ hlong
    simp only [Path.child, List.all_append, hnameable]
    decide +kernel
  have hnames : (((projectEntries [longFile, ("a.liquid" : WideText)]).map Prod.fst).filter
      (ThemeView.Ends ".liquid" ·)) = [longFile, ("a.liquid" : WideText)] := by decide +kernel
  have hfirst : ThemeView.listDirectory longDisk longRoot [] ".liquid" longRoot
      (longDisk.tree.children [longName]) =
      .error (.read (.file ⟨.nameTooLong, (longRoot.child longFile).text⟩)) := by
    have hchildren : longDisk.tree.children [longName] =
        projectEntries [longFile, ("a.liquid" : WideText)] :=
      Disk.children_ofDirectory isPlain_longDisk
    unfold ThemeView.listDirectory
    rw [hchildren]
    simp only [hroot, hnames, List.map_cons, ThemeView.pick, hfile]
    rfl
  have hdirectories : ThemeView.directories longDisk.tree [longName] =
      ([], longDisk.tree.children [longName]) ::
        (((longDisk.tree.below [longName]).filter (·.2.isDirectory)).map Prod.fst).map fun names =>
          (names, longDisk.tree.children ([longName] ++ names)) := by
    simp [ThemeView.directories]
  unfold ThemeView.list
  rw [hlocate]
  simp only [ThemeView.endings, List.mapM_cons, hdirectories, List.append_nil, hfirst]
  rfl

theorem not_answers_long : ¬ longSession.AnswersRegardless longUri := by
  rw [longSession_eq]
  obtain ⟨⟨-, hshort⟩, ⟨-, -, hlen, -⟩, -⟩ := longRoot_paths
  have hdocument : Path.ofText longUri = longRoot.descend [("a.liquid" : WideText)] := ofText_longUri
  have hdescend : (longRoot.descend [("a.liquid" : WideText)]).HasShortParts :=
    Path.HasShortParts.descend hshort (by decide)
  have hread : longDisk.textAt (longRoot.descend [("a.liquid" : WideText)]) = .ok "" :=
    textAt_project_file isPlain_longDisk 15 (List.mem_cons_of_mem _ List.mem_cons_self)
      (List.append_assoc _ _ _) (by decide +kernel) hlen
  intro h
  obtain ⟨ds, -, hreply⟩ := h longUri ⟨longRoot, [], [], none⟩ [] [("a.liquid" : WideText)] ""
    documentPath_longUri rfl rfl (Disk.hasShortNames_ofDirectory isPlain_longDisk) hshort
    (hdocument ▸ hdescend) hdocument isThemeFile_longDisk (hdocument ▸ hread) nofun nofun
  have hreply := hreply .didOpen rfl .null (documentParams (.str longUri)) rfl
  rw [dispatch_of_resolve documentPath_longUri rfl rfl .null rfl] at hreply
  simp only [findingsUnder, Traced.result_bind, ThemeView.build, Traced.ask, Traced.result_ofExcept,
    isDirectory_longRoot, list_longDisk, Traced.mapError_ok, Except.bind, Except.map] at hreply
  cases hreply

end Session

end ThemeLint
