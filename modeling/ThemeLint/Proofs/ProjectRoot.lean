import ThemeLint.Proofs.Diagnosis
import ThemeLint.Proofs.DocumentPath
import ThemeLint.Proofs.EnabledChecks

/-!
Where the root of a project starts. Nothing on the way to it looks at the directory that relative
paths start from, so a root is absolute just when the document that was asked for first is, or when
the configuration file says so. Below a relative root no document with an absolute path is found.
-/

set_option autoImplicit false

namespace ThemeLint

namespace Path

theorem isAbsolute_ofText (t : WideText) : (ofText t).isAbsolute = startsAtRoot t := by
  unfold ofText isAbsolute startsAtRoot anchorOf
  split
  · next h => simp [h]
  · next h => simp [h]
  · next h => simp [h]
  · next h =>
    have hhead : t.points.head? ≠ some (.char '/') := by
      intro hhead
      obtain ⟨s, hs⟩ := List.head?_eq_some_iff.1 hhead
      exact h s hs
    simpa using hhead

theorem isAbsolute_join (p q : Path) : (p.join q).isAbsolute = (p.isAbsolute || q.isAbsolute) := by
  obtain ⟨anchor, parts⟩ := q
  cases anchor <;> simp [join, isAbsolute]

theorem isAbsolute_normalize (p : Path) : p.normalize.isAbsolute = p.isAbsolute := rfl

end Path

namespace Uri

def hostOf (uri : String) : List Char :=
  ((uri.toList.drop fileScheme.length).filter (!isIgnored ·)).takeWhile (!endsHost ·)

def pathOf (uri : String) : List Char :=
  percentDecode (pathPart (((uri.toList.drop fileScheme.length).filter (!isIgnored ·)).drop
    (hostOf uri).length))

/-- A URI stands for an absolute path: a text that is no file URI if it is one, a file URI if it names
another machine or a path that starts with no drive. -/
def IsRooted (uri : String) : Prop :=
  if fileScheme <+: uri.toList then
    ¬ IsThisMachine (String.ofList (hostOf uri)) ∨ (pathOf uri ≠ [] ∧ isDrive (pathOf uri) = false)
  else uri.toList.head? = some '/'

theorem head?_decodeRun (run : List Char) : (decodeRun (run ++ ['/']).reverse).head? = some '/' := by
  rw [List.reverse_append, List.reverse_singleton, List.singleton_append, decodeRun,
    unescape_plain (by decide) (by decide), Text.Utf8.decodeReplacing, Text.Utf8.pieces,
    Text.Utf8.piecesFrom_utf8EncodeChar]
  rfl

theorem head?_decodeFrom (run s : List Char) : (decodeFrom (run ++ ['/']) s).head? = some '/' := by
  induction s generalizing run with
  | nil => exact head?_decodeRun run
  | cons c s ih =>
    rw [decodeFrom]
    split
    · exact ih (c :: run)
    · rw [List.head?_append, head?_decodeRun]
      rfl

theorem pathPart_eq (s : List Char) :
    pathPart s = (s.takeWhile (· ≠ '#')).takeWhile (· ≠ '?') := by
  have hfst (sep : Char) (s : List Char) : (splitFirst sep s).1 = s.takeWhile (· ≠ sep) := by
    unfold splitFirst
    dsimp only
    split <;> rfl
  rw [pathPart, hfst, hfst]

theorem pathPart_dropWhile (s : List Char) :
    pathPart (s.dropWhile (!endsHost ·)) = [] ∨
      ∃ more, pathPart (s.dropWhile (!endsHost ·)) = '/' :: more := by
  rw [pathPart_eq]
  cases hrest : s.dropWhile (!endsHost ·) with
  | nil => exact .inl rfl
  | cons c more =>
    have hends : endsHost c = true := by
      simpa [hrest] using List.head_dropWhile_not (!endsHost ·) (l := s) (by simp [hrest])
    simp only [endsHost, Bool.or_eq_true, beq_iff_eq] at hends
    rcases hends with (rfl | rfl) | rfl
    · exact .inr ⟨_, rfl⟩
    · exact .inl rfl
    · exact .inl rfl

theorem pathOf_cases (uri : String) : pathOf uri = [] ∨ (pathOf uri).head? = some '/' := by
  have hdrop (p : Char → Bool) (s : List Char) :
      s.drop (s.takeWhile p).length = s.dropWhile p := by
    have hsplit := @List.drop_left _ (s.takeWhile p) (s.dropWhile p)
    rwa [List.takeWhile_append_dropWhile] at hsplit
  unfold pathOf hostOf
  rw [hdrop]
  rcases pathPart_dropWhile ((uri.toList.drop fileScheme.length).filter (!isIgnored ·)) with
    hnone | ⟨more, hmore⟩
  · exact .inl (by rw [hnone]; rfl)
  · exact .inr (by rw [hmore]; exact head?_decodeFrom [] more)

theorem documentPath_of_file {uri text : String} (hfile : fileScheme <+: uri.toList)
    (h : documentPath uri = .ok text) : text = String.ofList (hostedPath (hostOf uri) (pathOf uri)) := by
  have hscheme := List.isPrefixOf_iff_prefix.2 hfile
  simp only [documentPath, hscheme, Bool.not_true, Bool.false_eq_true, if_false] at h
  split at h
  · cases h
  · exact (Except.ok.inj h).symm

theorem documentPath_of_no_file {uri text : String} (hfile : ¬ fileScheme <+: uri.toList)
    (h : documentPath uri = .ok text) : text = uri := by
  have hscheme : fileScheme.isPrefixOf uri.toList = false :=
    Bool.eq_false_iff.2 fun hprefix => hfile (List.isPrefixOf_iff_prefix.1 hprefix)
  simp only [documentPath, hscheme, Bool.not_false, if_true] at h
  exact (Except.ok.inj h).symm

theorem head?_drop_of_isDrive {path : List Char} (h : isDrive path = true) :
    (path.drop 1).head? ≠ some '/' := by
  have hslash : Text.isLetter '/' = false := by decide +kernel
  intro hhead
  unfold isDrive at h
  split at h
  · obtain rfl := Option.some.inj hhead
    exact absurd h (by rw [hslash]; decide)
  · obtain rfl := Option.some.inj hhead
    exact absurd h (by rw [hslash]; decide)
  · cases h

theorem head?_hostedPath (host path : List Char) (h : path = [] ∨ path.head? = some '/') :
    (hostedPath host path).head? = some '/' ↔
      ¬ (host = [] ∨ isLocalhost host = true) ∨ (path ≠ [] ∧ isDrive path = false) := by
  unfold hostedPath
  split
  next hhere =>
    simp only [hhere, not_true_eq_false, false_or]
    split
    next hdrive =>
      simp only [hdrive, Bool.true_eq_false, and_false, iff_false]
      exact head?_drop_of_isDrive hdrive
    next hdrive =>
      rw [Bool.not_eq_true] at hdrive
      simp only [hdrive, and_true]
      rcases h with rfl | h
      · simp
      · simp only [h, true_iff]
        rintro rfl
        cases h
  next hhere => simp [hhere]

theorem isAbsolute_documentPath_iff {uri text : String} (h : documentPath uri = .ok text) :
    (Path.ofText text).isAbsolute = true ↔ IsRooted uri := by
  have hstarts (s : String) :
      (Path.ofText s).isAbsolute = true ↔ s.toList.head? = some '/' := by
    rw [Path.isAbsolute_ofText, startsAtRoot, beq_iff_eq, WideText.ofString, List.head?_map,
      Option.map_eq_some_iff]
    simp
  rw [hstarts]
  unfold IsRooted
  split
  next hfile =>
    rw [documentPath_of_file hfile h, String.toList_ofList, head?_hostedPath _ _ (pathOf_cases uri),
      isThisMachine_iff, String.toList_ofList]
  next hfile => rw [documentPath_of_no_file hfile h]

end Uri

namespace Config

variable {d : Disk} {path dir root : Path} {marker : Path} {entries : Entries}

theorem ensures_firstWith (d : Disk) (marker : Path) (dirs : List Path) :
    Ensures (fun found => ∀ dir, found = some dir → dir ∈ dirs) (firstWith d marker dirs) := by
  induction dirs with
  | nil => exact ensures_ok nofun
  | cons dir dirs ih =>
    refine (ensures_self _).bind fun present _ => ?_
    split
    · refine ensures_ok fun found heq => ?_
      cases heq
      exact List.mem_cons_self
    · exact fun found hfound dir' hdir => List.mem_cons_of_mem dir (ih found hfound dir' hdir)

/-- The search goes up the path as it is written, so it never leaves where the path starts. -/
theorem ensures_findRoot (d : Disk) (path : Path) (marker : String) :
    Ensures (fun found => ∀ dir, found = some dir → dir.anchor = path.anchor)
      (findRoot d path marker) := by
  refine (ensures_self _).bind fun isDir _ => ?_
  intro found hfound dir heq
  have hmem := ensures_firstWith d _ _ found hfound dir heq
  rcases List.mem_append.1 hmem with hhere | hparent
  · split at hhere
    · rw [List.mem_singleton.1 hhere]
    · cases hhere
  · obtain ⟨n, -, rfl⟩ := List.mem_map.1 hparent
    rfl

theorem anchor_of_discoverRoot (h : discoverRoot d path = .ok dir) : dir.anchor = path.anchor := by
  refine (?_ : Ensures (fun dir => dir.anchor = path.anchor) (discoverRoot d path)) dir h
  unfold discoverRoot
  refine (ensures_findRoot d path fileName).bind fun found hfound => ?_
  split
  · exact ensures_ok (hfound _ rfl)
  refine (ensures_findRoot d path repositoryMark).bind fun found hfound => ?_
  split
  · exact ensures_ok (hfound _ rfl)
  refine (ensures_self _).bind fun isDir _ => ensures_ok ?_
  split <;> rfl

theorem Places.isAbsolute_iff (h : Places dir entries root) :
    root.isAbsolute = true ↔ dir.isAbsolute = true ∨
      ∃ text, entries.lookup (.str "root") = some (.scalar (.str text)) ∧
        startsAtRoot text = true := by
  cases h with
  | here hnone => simp [hnone]
  | there htext =>
    simp [htext, Path.isAbsolute_normalize, Path.isAbsolute_join, Path.isAbsolute_ofText]

end Config

namespace Session

theorem exists_loadFor_of_run (disk : Disk) (registry : Registry) {ops : List Operation}
    {config : Config} (h : ((start disk registry).run ops).config = some config) :
    ∃ before op later path, ops = before ++ op :: later ∧
      ((start disk registry).run before).config = none ∧ op.asked? = some path ∧
      (((start disk registry).run before).loadFor path).result = .ok config := by
  -- From the end, where the last operation meets the session that the others left.
  induction ops using List.reverseRecOn with
  | nil => cases h
  | append_singleton ops op ih =>
    rw [run_snoc] at h
    cases hheld : ((start disk registry).run ops).config with
    | some held =>
      rw [perform_config, hheld] at h
      obtain ⟨before, op', later, path, heq, hload⟩ := ih (hheld.trans h)
      exact ⟨before, op', later ++ [op], path, by rw [heq, List.append_assoc]; rfl, hload⟩
    | none =>
      obtain ⟨path, hpath, hload⟩ := loadFor_of_perform hheld h
      exact ⟨ops, op, [], path, rfl, hheld, hpath, hload⟩

/-- Whatever is found in a document is found below the root, so both start at the same place. -/
theorem isAbsolute_of_findingsUnder {s : Session} {config : Config} {path : Path}
    {found : List Finding} (h : (s.findingsUnder config path).result = .ok found)
    (hsome : found ≠ []) : path.isAbsolute = config.root.isAbsolute := by
  rw [findingsUnder_eq] at h
  cases hbuild : (ThemeView.build s.disk config.root config.ignore).result with
  | error failure =>
    rw [hbuild] at h
    cases h
  | ok view =>
    rw [hbuild] at h
    have hmem := Analysis.mem_files_of_run h hsome
    obtain ⟨names, rfl⟩ := (ThemeView.ensures_build _ _ _ view hbuild).1 path hmem
    rfl

/-- The root that a session holds is absolute just when the path that was asked for first is, or when
the configuration file puts the root at an absolute path. The path of a document is absolute just
when its URI says so. Where the root is not, nothing is found in a document whose path is. -/
theorem root_isAbsolute_over_runs (disk : Disk) (registry : Registry) :
    (∀ ops config, ((start disk registry).run ops).config = some config →
      ∃ before op later path dir entries, ops = before ++ op :: later ∧
        ((start disk registry).run before).config = none ∧ op.asked? = some path ∧
        Config.discoverRoot ((start disk registry).run before).disk path = .ok dir ∧
        Config.Holds ((start disk registry).run before).disk dir entries ∧
        (config.root.isAbsolute = true ↔ path.isAbsolute = true ∨
          ∃ text, entries.lookup (.str "root") = some (.scalar (.str text)) ∧
            startsAtRoot text = true)) ∧
    (∀ uri text, Uri.documentPath uri = .ok text →
      ((Path.ofText text).isAbsolute = true ↔ Uri.IsRooted uri)) ∧
    ∀ ops config path found, ((start disk registry).run ops).config = some config →
      (((start disk registry).run ops).offenses path).2.result = .ok found → found ≠ [] →
        path.isAbsolute = config.root.isAbsolute := by
  refine ⟨fun ops config hconfig => ?_, fun uri text => Uri.isAbsolute_documentPath_iff,
    fun ops config path found hconfig hfound hsome => ?_⟩
  · obtain ⟨before, op, later, path, heq, hnone, hasked, hload⟩ :=
      exists_loadFor_of_run disk registry hconfig
    obtain ⟨dir, hdir, hload⟩ := (loadFor_eq_ok_iff _ path config).1 hload
    obtain ⟨entries, hholds⟩ := Config.exists_holds_of_load hload
    refine ⟨before, op, later, path, dir, entries, heq, hnone, hasked, hdir, hholds, ?_⟩
    rw [hholds.load_eq] at hload
    obtain ⟨hroot, -⟩ := Config.ofEntries_eq_ok_iff.1 hload
    have hanchor : dir.isAbsolute = path.isAbsolute := by
      rw [Path.isAbsolute, Config.anchor_of_discoverRoot hdir, ← Path.isAbsolute]
    rw [(Config.places_of_rootOf hroot).isAbsolute_iff, hanchor]
  · rw [offenses_result, configFor, hconfig] at hfound
    exact isAbsolute_of_findingsUnder hfound hsome

theorem root_of_small_document :
    (wordySession (.str "found")).config = some smallConfig ∧ smallConfig.root.isAbsolute = true ∧
    Uri.documentPath "file:///p/a.liquid" = .ok "/p/a.liquid" ∧ Uri.IsRooted "file:///p/a.liquid" ∧
    ∃ found, ((wordySession (.str "found")).offenses (Path.ofText "/p/a.liquid")).2.result = .ok found ∧
      found ≠ [] ∧ (Path.ofText "/p/a.liquid").isAbsolute = smallConfig.root.isAbsolute := by
  obtain ⟨hruns, huris, hfinds⟩ := root_isAbsolute_over_runs smallDisk (wordyRegistry (.str "found"))
  have hconfig : (wordySession (.str "found")).config = some smallConfig := by rw [wordySession_eq]
  have huri : Uri.documentPath "file:///p/a.liquid" = .ok "/p/a.liquid" := by decide
  have hroot : smallConfig.root.isAbsolute = true := by
    obtain ⟨before, op, later, path, _, _, heq, -, hasked, -, -, habsolute⟩ := hruns _ _ hconfig
    obtain ⟨rfl, rfl, rfl⟩ : before = [] ∧ op = .resolve smallRoot ∧ later = [] := by
      simpa [List.singleton_eq_append_iff] using heq
    cases hasked
    exact habsolute.2 (.inl rfl)
  have hcovers : smallConfig.Covers smallDisk (Path.ofText "/p/a.liquid") :=
    ⟨[("a.liquid" : WideText)], by decide, by decide, isThemeFile_smallDisk⟩
  have hfound : ((wordySession (.str "found")).offenses (Path.ofText "/p/a.liquid")).2.result =
      .ok (Analysis.kept ⟨Path.ofText "/p/a.liquid", ""⟩ [wordyCheck (.str "found")]) := by
    have hread := (Analysis.readTarget_eq_ok_iff smallDisk (Path.ofText "/p/a.liquid")
      ⟨Path.ofText "/p/a.liquid", ""⟩).2 ⟨rfl, textAt_smallDisk⟩
    have hall := (Analysis.findAll_eq_ok_iff ⟨Path.ofText "/p/a.liquid", ""⟩
      [wordyCheck (.str "found")] _).2 ⟨unfailing_wordy _ _, rfl⟩
    rw [wordySession_eq, offenses_result, configFor]
    refine (findingsUnder_of_covers (Disk.hasShortNames_ofDirectory isPlain_smallDisk)
      hasShortParts_smallRoot fits_smallDisk (checksFor_wordy _) hcovers).trans ?_
    simp only [hread, hall, Except.bind, Except.map]
    rfl
  have hsome : Analysis.kept ⟨Path.ofText "/p/a.liquid", ""⟩ [wordyCheck (.str "found")] ≠ [] := by
    rw [kept_wordy]
    exact List.cons_ne_nil _ _
  exact ⟨hconfig, hroot, huri, (huris _ _ huri).1 rfl, _, hfound, hsome,
    hfinds _ _ _ _ hconfig hfound hsome⟩

section Empty

def emptyDisk : Disk := ⟨.empty, []⟩

/-- A path that can be looked up and begins with a name. -/
def LeadsAway (p : Path) : Prop :=
  Disk.isTooLong p = false ∧
    ∃ name ∈ p.parts.head?, name ≠ Path.here ∧ name ≠ Path.up ∧ nameSize name ≤ nameLimit

instance (p : Path) : Decidable (LeadsAway p) := inferInstanceAs (Decidable (_ ∧ _))

theorem isA_emptyDisk {p : Path} (h : LeadsAway p) (kind : Node → Bool) :
    emptyDisk.isA kind p = .ok false := by
  obtain ⟨hlen, name, hname, hhere, hup, hshort⟩ := h
  obtain ⟨rest, hparts⟩ := List.head?_eq_some_iff.1 hname
  have hwalk : emptyDisk.tree.walk linkLimit [] (name :: rest) = .error .missing := by
    rw [FileTree.walk]
    simp [emptyDisk, FileTree.empty, FileTree.get?, hhere, hup, Nat.not_lt.2 hshort]
  have hnode : emptyDisk.nodeAt p = .error .missing := by
    have hstart : (if p.isAbsolute then [] else emptyDisk.here) = [] := by
      split <;> rfl
    simp only [Disk.nodeAt, Disk.locate, hlen, hparts, hstart, hwalk, Bool.false_eq_true, if_false]
  unfold Disk.isA
  split
  · rfl
  · simp only [hnode]

theorem findRoot_emptyDisk {path : Path} {marker : String} (hpath : LeadsAway path)
    (hparents : ∀ dir ∈ path.parents, LeadsAway (dir.join (Path.ofText marker))) :
    Config.findRoot emptyDisk path marker = .ok none := by
  have hfirst (dirs : List Path) (hdirs : ∀ dir ∈ dirs, LeadsAway (dir.join (Path.ofText marker))) :
      Config.firstWith emptyDisk (Path.ofText marker) dirs = .ok none := by
    induction dirs with
    | nil => rfl
    | cons dir dirs ih =>
      rw [List.forall_mem_cons] at hdirs
      have hexists : emptyDisk.exists? (dir.join (Path.ofText marker)) = .ok false :=
        isA_emptyDisk hdirs.1 _
      simp only [Config.firstWith, hexists, bind, Except.bind]
      exact ih hdirs.2
  have hdir : emptyDisk.isDirectory path = .ok false := isA_emptyDisk hpath _
  simp only [Config.findRoot, hdir, bind, Except.bind]
  exact hfirst path.parents hparents

theorem run_emptyDisk {uri text : String} {path : Path} (huri : Uri.documentPath uri = .ok text)
    (htext : Path.ofText text = path) (hpath : LeadsAway path)
    (hfile : ∀ dir ∈ path.parents, LeadsAway (dir.join (Path.ofText Config.fileName)))
    (hrepository : ∀ dir ∈ path.parents, LeadsAway (dir.join (Path.ofText Config.repositoryMark)))
    (hparent : LeadsAway (path.parent.child Config.fileName)) :
    ((start emptyDisk (Registry.ofClasses [])).run
      [.dispatch (messageAbout .didOpen uri)]).config = some ⟨path.parent, [], [], none⟩ := by
  have hasked := asked?_messageAbout .didOpen uri text rfl huri
  have hdir : emptyDisk.isDirectory path = .ok false := isA_emptyDisk hpath _
  have hload : ((start emptyDisk (Registry.ofClasses [])).loadFor path).result =
      .ok ⟨path.parent, [], [], none⟩ := by
    refine (loadFor_eq_ok_iff _ _ _).2 ⟨path.parent, ?_, Config.load_of_no_file (isA_emptyDisk hparent _)⟩
    change Config.discoverRoot emptyDisk path = _
    simp only [Config.discoverRoot, findRoot_emptyDisk hpath hfile,
      findRoot_emptyDisk hpath hrepository, hdir, bind, Except.bind]
    rfl
  rw [htext] at hasked
  change ((start emptyDisk (Registry.ofClasses [])).perform _).1.config = _
  rw [perform_config, Operation.asked?, hasked, Option.bind_some, hload]
  rfl

def RootsAbsolute (uri : String) : Prop :=
  ∀ (disk : Disk) (registry : Registry) (config : Config),
    ((start disk registry).run [.dispatch (messageAbout .didOpen uri)]).config = some config →
      config.root.isAbsolute = true

/-- The root is relative where the first document has no file yet, or lies on a drive. -/
theorem not_rootsAbsolute :
    ¬ RootsAbsolute "untitled:Untitled-1" ∧ ¬ RootsAbsolute "file:///d:/p/a.liquid" := by
  constructor
  · intro h
    have hrun := @run_emptyDisk "untitled:Untitled-1" "untitled:Untitled-1"
      ⟨.relative, ["untitled:Untitled-1"]⟩ (by decide) (by decide) (by decide) (by decide)
      (by decide) (by decide)
    exact absurd (h _ _ _ hrun) (by decide)
  · intro h
    have hrun := @run_emptyDisk "file:///d:/p/a.liquid" "d:/p/a.liquid"
      ⟨.relative, ["d:", "p", "a.liquid"]⟩ (by decide +kernel) (by decide) (by decide) (by decide)
      (by decide) (by decide)
    exact absurd (h _ _ _ hrun) (by decide)

end Empty

end Session

end ThemeLint
