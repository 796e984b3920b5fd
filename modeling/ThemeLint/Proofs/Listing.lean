import ThemeLint.Proofs.Traversal
import ThemeLint.Proofs.Walk
import ThemeLint.ThemeView

set_option autoImplicit false

namespace ThemeLint

namespace ThemeView

def leavesOut (patterns : List WideText) (names : List WideText) : Bool :=
  patterns.any (globMatches · (⟨.relative, names⟩ : Path).text)

/-- Some names below a root lead to a file of a theme. -/
structure IsThemeFile (d : Disk) (root : Path) (patterns : List WideText) (names : List WideText) :
    Prop where
  root_directory : d.isDirectory root = .ok true
  nonempty : names ≠ []
  directories : ∀ front, front ≠ [] → front <+: names → front ≠ names →
    d.standsAt (root.descend front) = some .directory
  file : d.isFile (root.descend names) = .ok true
  ending : ∃ name, names.getLast? = some name ∧ ∃ ending ∈ endings, Ends ending name
  kept : ∀ pattern ∈ patterns, globMatches pattern (⟨.relative, names⟩ : Path).text = false

theorem isIgnored_descend (root : Path) (patterns names : List WideText) :
    isIgnored (root.descend names) root patterns = .ok (leavesOut patterns names) := by
  unfold isIgnored Path.descend
  rw [Path.below?_child]
  rfl

def keeps (d : Disk) (root : Path) (patterns names : List WideText) : Bool :=
  (d.isFile (root.descend names)).toOption = some true && !leavesOut patterns names

theorem keeps_iff (d : Disk) (root : Path) (patterns names : List WideText) :
    keeps d root patterns names = true ↔ d.isFile (root.descend names) = .ok true ∧
      ∀ pattern ∈ patterns, globMatches pattern (⟨.relative, names⟩ : Path).text = false := by
  unfold keeps leavesOut
  cases d.isFile (root.descend names) <;> simp [Except.toOption]

theorem pick_eq (d : Disk) (root : Path) (patterns : List WideText) (l : List (List WideText))
    (h : ∀ names ∈ l, ∃ b, d.isFile (root.descend names) = .ok b) :
    pick d root patterns (l.map root.descend) =
      .ok ((l.filter (keeps d root patterns)).map root.descend) := by
  induction l with
  | nil => rfl
  | cons names l ih =>
    have ih := ih fun n hn => h n (List.mem_cons_of_mem _ hn)
    obtain ⟨b, hb⟩ := h names (by simp)
    rw [List.map_cons, pick, hb, ih]
    cases b with
    | false =>
      have hkeeps : keeps d root patterns names = false := by simp [keeps, hb, Except.toOption]
      simp [hkeeps]
    | true =>
      have hkeeps : keeps d root patterns names = !leavesOut patterns names := by
        simp [keeps, hb, Except.toOption]
      rw [isIgnored_descend, List.filter_cons, hkeeps]
      cases leavesOut patterns names <;> rfl

def IsLengthFault (failure : Failure) : Prop := ∃ place, failure = .read (.file ⟨.nameTooLong, place⟩)

section Failures

variable (d : Disk) (root : Path) (patterns : List WideText)

theorem failsAs_pick (l : List (List WideText)) :
    FailsAs IsLengthFault (pick d root patterns (l.map root.descend)) := by
  induction l with
  | nil => exact failsAs_ok []
  | cons names l ih =>
    rw [List.map_cons, pick]
    split
    next fault hfile =>
      obtain rfl := d.failsAs_isA Node.isFile (root.descend names) fault hfile
      exact failsAs_error ⟨_, rfl⟩
    next => exact ih
    next =>
      rw [isIgnored_descend]
      exact (failsAs_ok _).bind fun _ => ih.bind fun _ => failsAs_ok _

theorem failsAs_followLinks (dir : Path) (names : List WideText) :
    FailsAs (·.refusal = .nameTooLong) (followLinks d dir names) := by
  induction names with
  | nil => exact failsAs_ok ()
  | cons name names ih =>
    rw [followLinks]
    split
    · exact failsAs_error rfl
    · exact ih

theorem failsAs_listDirectory (ending : String) (dirs : List WideText)
    (entries : List (WideText × Node)) :
    FailsAs IsLengthFault (listDirectory d root patterns ending (root.descend dirs) entries) := by
  have hchild : (root.descend dirs).child = root.descend ∘ fun name => dirs ++ [name] :=
    funext fun name => root.child_descend dirs name
  have hlinks : FailsAs IsLengthFault ((followLinks d (root.descend dirs)
      ((entries.filter (·.2.isLink)).map Prod.fst)).mapError fun fault => .read (.file fault)) := by
    refine failsAs_mapError fun fault hfault => ?_
    obtain ⟨refusal, place⟩ := fault
    obtain rfl : refusal = .nameTooLong := failsAs_followLinks d _ _ _ hfault
    exact ⟨place, rfl⟩
  unfold listDirectory
  simp only [hchild, ← List.map_map]
  split
  · exact failsAs_error ⟨_, rfl⟩
  · exact (failsAs_pick d root patterns _).bind fun _ => hlinks.bind fun _ => failsAs_ok _

theorem failsAs_list (endings : List String) :
    FailsAs IsLengthFault (list d root patterns endings) := by
  unfold list
  split
  · exact failsAs_ok []
  · refine FailsAs.bind (failsAs_mapM fun ending _ => ?_) fun _ => failsAs_ok _
    refine FailsAs.bind (failsAs_mapM fun visited _ => ?_) fun _ => failsAs_ok _
    exact failsAs_listDirectory d root patterns ending visited.1 visited.2

theorem failsAs_build : FailsAs IsLengthFault (build d root patterns).result := by
  unfold build
  rw [Traced.result_bind]
  refine FailsAs.bind (failsAs_mapError fun fault hfault => ?_) fun present => ?_
  · obtain rfl := d.failsAs_isA Node.isDirectory root fault hfault
    exact ⟨_, rfl⟩
  · split
    · exact failsAs_ok _
    · rw [Traced.result_bind]
      exact (failsAs_list d root patterns endings).bind fun files => failsAs_ok _

end Failures

section Below

variable (d : Disk) (root : Path) (patterns : List WideText)

theorem ensures_pick (ps : List Path) :
    Ensures (fun files => (∀ p ∈ files, p ∈ ps) ∧ ∀ p ∈ ps, ∃ b, d.isFile p = .ok b)
      (pick d root patterns ps) := by
  induction ps with
  | nil => exact ensures_ok ⟨nofun, nofun⟩
  | cons p ps ih =>
    have hrest {files : List Path} (h : ∀ q ∈ files, q ∈ ps) : ∀ q ∈ files, q ∈ p :: ps :=
      fun q hq => List.mem_cons_of_mem p (h q hq)
    unfold pick
    split
    · exact ensures_error _
    next hfile =>
      intro files hfiles
      obtain ⟨hbelow, hanswers⟩ := ih files hfiles
      exact ⟨hrest hbelow, List.forall_mem_cons.2 ⟨⟨_, hfile⟩, hanswers⟩⟩
    next hfile =>
      refine (ensures_self _).bind fun ignored _ => ih.bind fun more hmore => ensures_ok ?_
      obtain ⟨hbelow, hanswers⟩ := hmore
      refine ⟨?_, List.forall_mem_cons.2 ⟨⟨_, hfile⟩, hanswers⟩⟩
      split
      · exact hrest hbelow
      · exact List.forall_mem_cons.2 ⟨List.mem_cons_self, hrest hbelow⟩

theorem ensures_followLinks (dir : Path) (names : List WideText) :
    Ensures (fun _ => ∀ name ∈ names, d.nodeAt (dir.child name) ≠ .error .nameTooLong)
      (followLinks d dir names) := by
  induction names with
  | nil => exact ensures_ok nofun
  | cons name names ih =>
    rw [followLinks]
    split
    · exact ensures_error _
    next hnode => exact fun _ hdone => List.forall_mem_cons.2 ⟨hnode, ih _ hdone⟩

/-- A directory that was listed could be looked up, and so could what was looked for in it. -/
structure Answers (d : Disk) (root : Path) (ending : String)
    (visited : List WideText × List (WideText × Node)) : Prop where
  directory : Disk.isTooLong (root.descend visited.1) = false
  named : ∀ entry ∈ visited.2, Ends ending entry.1 →
    ∃ b, d.isFile (root.descend (visited.1 ++ [entry.1])) = .ok b
  links : ∀ entry ∈ visited.2, entry.2.isLink = true →
    d.nodeAt (root.descend (visited.1 ++ [entry.1])) ≠ .error .nameTooLong

def AllBelow (root : Path) (files : List Path) : Prop := ∀ p ∈ files, ∃ names, p = root.descend names

theorem allBelow_flatten {lists : List (List Path)} (h : ∀ files ∈ lists, AllBelow root files) :
    AllBelow root lists.flatten := by
  intro p hp
  obtain ⟨files, hfiles, hp⟩ := List.mem_flatten.1 hp
  exact h files hfiles p hp

theorem ensures_listDirectory (ending : String) (visited : List WideText × List (WideText × Node)) :
    Ensures (fun files => AllBelow root files ∧ Answers d root ending visited)
      (listDirectory d root patterns ending (root.descend visited.1) visited.2) := by
  unfold listDirectory
  split
  · exact ensures_error _
  next hlen =>
    refine (ensures_pick d root patterns _).bind fun files hfiles => ?_
    refine ((ensures_followLinks d _ _).mapError _).bind fun _ hlinks => ensures_ok ?_
    obtain ⟨hbelow, hfiles⟩ := hfiles
    refine ⟨fun p hp => ?_, by simpa using hlen, fun entry hentry hends => ?_,
      fun entry hentry hlink => ?_⟩
    · obtain ⟨name, -, rfl⟩ := List.mem_map.1 (hbelow p hp)
      exact ⟨visited.1 ++ [name], root.child_descend visited.1 name⟩
    · rw [← Path.child_descend]
      exact hfiles _ (List.mem_map_of_mem (List.mem_filter.2
        ⟨List.mem_map_of_mem hentry, decide_eq_true hends⟩))
    · rw [← Path.child_descend]
      exact hlinks _ (List.mem_map_of_mem (List.mem_filter.2 ⟨hentry, hlink⟩))

theorem ensures_list (endings : List String) :
    Ensures (fun files => AllBelow root files ∧ ∀ loc, d.locate root = .ok loc →
        ∀ ending ∈ endings, ∀ visited ∈ directories d.tree loc, Answers d root ending visited)
      (list d root patterns endings) := by
  unfold list
  split
  next hroot => exact ensures_ok ⟨nofun, fun loc hloc => nomatch hroot.symm.trans hloc⟩
  next loc hroot =>
    refine (ensures_mapM (R := AllBelow root) (Q := fun ending => ∀ visited ∈ directories d.tree loc,
      Answers d root ending visited) fun ending _ => ?_).bind fun lists h => ensures_ok ?_
    · refine (ensures_mapM fun visited _ => ?_).bind fun lists h =>
        ensures_ok ⟨allBelow_flatten root h.1, h.2⟩
      exact ensures_listDirectory d root patterns ending visited
    · refine ⟨allBelow_flatten root h.1, fun loc' hloc' => ?_⟩
      obtain rfl := Except.ok.inj (hroot.symm.trans hloc')
      exact h.2

/-- Whatever a view holds is spelled from its root, and where the root is a directory, all that had to
be looked up below it could be. -/
theorem ensures_build :
    Ensures (fun view : ThemeView => AllBelow root view.files ∧ ∀ loc,
        d.isDirectory root = .ok true → d.locate root = .ok loc →
          ∀ ending ∈ endings, ∀ visited ∈ directories d.tree loc, Answers d root ending visited)
      (build d root patterns).result := by
  unfold build
  rw [Traced.result_bind]
  refine ((ensures_self (d.isDirectory root)).mapError _).bind fun present hpresent => ?_
  split
  next hnot =>
    refine ensures_ok ⟨nofun, fun loc hdirectory => ?_⟩
    obtain rfl := Except.ok.inj (hpresent.symm.trans hdirectory)
    exact absurd hnot (by decide)
  · rw [Traced.result_bind]
    refine (ensures_list d root patterns endings).bind fun files h => ensures_ok ?_
    exact ⟨fun p hp => h.1 p (List.mem_mergeSort.1 hp), fun loc _ hroot => h.2 loc hroot⟩

end Below

theorem followLinks_eq (d : Disk) (dir : Path) (names : List WideText)
    (h : ∀ name ∈ names, d.nodeAt (dir.child name) ≠ .error .nameTooLong) :
    followLinks d dir names = .ok () := by
  induction names with
  | nil => rfl
  | cons name names ih =>
    rw [followLinks]
    split
    next hn => exact absurd hn (h name (by simp))
    next => exact ih fun n hn => h n (List.mem_cons_of_mem _ hn)

def candidatesIn (ending : String) (dirs : List WideText) (entries : List (WideText × Node)) :
    List (List WideText) :=
  ((entries.map Prod.fst).filter (Ends ending ·)).map fun name => dirs ++ [name]

def candidates (t : FileTree) (loc : Location) (endings : List String) : List (List WideText) :=
  endings.flatMap fun ending => (directories t loc).flatMap fun (dirs, entries) =>
    candidatesIn ending dirs entries

theorem mem_candidatesIn_iff (t : FileTree) (loc : Location) (ending : String)
    (dirs names : List WideText) :
    names ∈ candidatesIn ending dirs (t.children (loc ++ dirs)) ↔
      ∃ name node, names = dirs ++ [name] ∧ t.get? (loc ++ names) = some node ∧
        Ends ending name := by
  unfold candidatesIn
  simp only [List.mem_map, List.mem_filter, Prod.exists, decide_eq_true_eq]
  constructor
  · intro h
    obtain ⟨name, ⟨⟨name', node, hm, rfl⟩, hends⟩, rfl⟩ := h
    exact ⟨name', node, rfl, (t.mem_children_iff_get? loc dirs name' node).1 hm, hends⟩
  · intro h
    obtain ⟨name, node, rfl, hget, hends⟩ := h
    exact ⟨name, ⟨⟨name, node, (t.mem_children_iff_get? loc dirs name node).2 hget, rfl⟩, hends⟩, rfl⟩

theorem mem_directories_iff (t : FileTree) {loc : Location} (hloc : t.get? loc = some .directory)
    (dirs : List WideText) (entries : List (WideText × Node)) :
    (dirs, entries) ∈ directories t loc ↔
      t.get? (loc ++ dirs) = some .directory ∧ entries = t.children (loc ++ dirs) := by
  have hmem : dirs ∈ [] :: ((t.below loc).filter (·.2.isDirectory)).map Prod.fst ↔
      t.get? (loc ++ dirs) = some .directory := by
    by_cases hd : dirs = []
    · simp [hd, hloc]
    · rw [t.get?_eq_some_iff (by simp [hd])]
      simp only [List.mem_cons, hd, false_or, List.mem_map, List.mem_filter, Prod.exists]
      constructor
      · intro h
        obtain ⟨names, node, ⟨hbelow, hdir⟩, rfl⟩ := h
        cases node with
        | directory => exact ((t.mem_below_iff loc names _).1 hbelow).2
        | _ => cases hdir
      · intro h
        exact ⟨dirs, .directory, ⟨(t.mem_below_iff loc dirs _).2 ⟨hd, h⟩, rfl⟩, rfl⟩
  unfold directories
  simp only [List.mem_map, Prod.mk.injEq]
  constructor
  · intro h
    obtain ⟨names, hn, rfl, rfl⟩ := h
    exact ⟨hmem.1 hn, rfl⟩
  · intro h
    obtain ⟨h, rfl⟩ := h
    exact ⟨dirs, hmem.2 h, rfl, rfl⟩

theorem mem_candidates_iff (t : FileTree) {loc : Location} (hloc : t.get? loc = some .directory)
    (endings : List String) (names : List WideText) :
    names ∈ candidates t loc endings ↔
      ∃ dirs name node, names = dirs ++ [name] ∧ t.get? (loc ++ names) = some node ∧
        ∃ ending ∈ endings, Ends ending name := by
  unfold candidates
  simp only [List.mem_flatMap, Prod.exists, mem_directories_iff t hloc]
  constructor
  · intro h
    obtain ⟨ending, hending, dirs, entries, ⟨hdirs, rfl⟩, hm⟩ := h
    obtain ⟨name, node, hnames, hget, hends⟩ := (mem_candidatesIn_iff t loc ending dirs names).1 hm
    exact ⟨dirs, name, node, hnames, hget, ending, hending, hends⟩
  · intro h
    obtain ⟨dirs, name, node, hnames, hget, ending, hending, hends⟩ := h
    have hdirs : t.get? (loc ++ dirs) = some .directory := t.get?_init (hnames ▸ hget)
    exact ⟨ending, hending, dirs, _, ⟨hdirs, rfl⟩,
      (mem_candidatesIn_iff t loc ending dirs names).2 ⟨name, node, hnames, hget, hends⟩⟩

theorem hasShortParts_of_get? {t : FileTree} (ht : t.HasShortNames) {root : Path}
    (hshort : root.HasShortParts) {loc : Location} {names : List WideText} {node : Node}
    (h : t.get? (loc ++ names) = some node) : (root.descend names).HasShortParts :=
  hshort.descend fun name hn => ht.of_get? h name (List.mem_append_right _ hn)

/-- The paths that a listing looks up: that of the root and, where it is a directory, those of the
directories, of the links and of what is named like a theme file below it. What cannot be named is
not looked up. -/
inductive LooksUp (d : Disk) (root : Path) : Path → Prop where
  | root : root.parts.all (·.points.all Disk.isNameable) = true → LooksUp d root root
  | directory {loc : Location} {names : List WideText} : d.isDirectory root = .ok true →
      d.locate root = .ok loc → d.tree.get? (loc ++ names) = some .directory →
      LooksUp d root (root.descend names)
  | link {loc : Location} {names : List WideText} {name target : WideText} :
      d.isDirectory root = .ok true → d.locate root = .ok loc →
      d.tree.get? (loc ++ (names ++ [name])) = some (.link target) →
      LooksUp d root (root.descend (names ++ [name]))
  | entry {loc : Location} {names : List WideText} {name : WideText} {node : Node} :
      d.isDirectory root = .ok true → d.locate root = .ok loc →
      d.tree.get? (loc ++ (names ++ [name])) = some node → (∃ ending ∈ endings, Ends ending name) →
      (root.descend (names ++ [name])).parts.all (·.points.all Disk.isNameable) = true →
      LooksUp d root (root.descend (names ++ [name]))

theorem LooksUp.isTooLong_of_fits {d : Disk} {root p : Path} (hd : d.Fits root)
    (h : LooksUp d root p) : Disk.isTooLong p = false := by
  cases h with
  | root => exact hd.root_short
  | directory hdirectory hroot hget => exact hd.isTooLong_of_get? hroot hget
  | link hdirectory hroot hget => exact hd.isTooLong_of_get? hroot hget
  | entry hdirectory hroot hget => exact hd.isTooLong_of_get? hroot hget

section

variable {d : Disk} {root : Path} {loc : Location} (ht : d.tree.HasShortNames)
  (hshort : root.HasShortParts) (hlooks : ∀ p, LooksUp d root p → Disk.isTooLong p = false)
  (hdirectory : d.isDirectory root = .ok true) (hroot : d.locate root = .ok loc)

include ht hshort hlooks hdirectory hroot

theorem listDirectory_eq (patterns : List WideText) {ending : String} (hending : ending ∈ endings)
    {dirs : List WideText} (hdirs : d.tree.get? (loc ++ dirs) = some .directory) :
    listDirectory d root patterns ending (root.descend dirs) (d.tree.children (loc ++ dirs)) =
      .ok (((candidatesIn ending dirs (d.tree.children (loc ++ dirs))).filter
        (keeps d root patterns)).map root.descend) := by
  have hlen := hlooks _ (.directory hdirectory hroot hdirs)
  have hpick := pick_eq d root patterns (candidatesIn ending dirs (d.tree.children (loc ++ dirs)))
    (by
      intro names hnames
      obtain ⟨name, node, rfl, hget, hends⟩ := (mem_candidatesIn_iff _ _ _ _ names).1 hnames
      exact Disk.exists_isA_eq ht _ (hasShortParts_of_get? ht hshort hget) fun hnameable =>
        hlooks _ (.entry hdirectory hroot hget ⟨ending, hending, hends⟩ hnameable))
  have hlinks := followLinks_eq d (root.descend dirs)
    (((d.tree.children (loc ++ dirs)).filter (·.2.isLink)).map Prod.fst)
    (by
      intro name hname
      simp only [List.mem_map, List.mem_filter] at hname
      obtain ⟨⟨name', node⟩, ⟨hm, hlink⟩, rfl⟩ := hname
      have hget := (d.tree.mem_children_iff_get? loc dirs name' node).1 hm
      cases node with
      | link target =>
        rw [Path.child_descend]
        exact Disk.nodeAt_ne_nameTooLong ht (hasShortParts_of_get? ht hshort hget)
          (hlooks _ (.link hdirectory hroot hget))
      | _ => cases hlink)
  have hchild : (root.descend dirs).child = root.descend ∘ fun name => dirs ++ [name] :=
    funext fun name => root.child_descend dirs name
  unfold listDirectory
  simp only [hlen, hlinks, hchild, ← List.map_map]
  unfold candidatesIn at hpick ⊢
  rw [hpick]
  rfl

theorem list_eq (hdir : d.tree.get? loc = some .directory) (patterns : List WideText) :
    list d root patterns endings =
      .ok (((candidates d.tree loc endings).filter (keeps d root patterns)).map root.descend) := by
  have hlists (ending : String) (hending : ending ∈ endings) :
      (directories d.tree loc).mapM (fun (dirs, entries) =>
        listDirectory d root patterns ending ⟨root.anchor, root.parts ++ dirs⟩ entries) =
      .ok ((directories d.tree loc).map fun (dirs, entries) =>
        ((candidatesIn ending dirs entries).filter (keeps d root patterns)).map root.descend) := by
    apply mapM_eq_ok_map
    intro visited hm
    obtain ⟨dirs, entries⟩ := visited
    obtain ⟨hdirs, rfl⟩ := (mem_directories_iff d.tree hdir dirs entries).1 hm
    exact listDirectory_eq ht hshort hlooks hdirectory hroot patterns hending hdirs
  -- Both loops of the listing, over the endings and over the directories, never fail.
  have hall : endings.mapM (fun ending => do
        let lists ← (directories d.tree loc).mapM fun (dirs, entries) =>
          listDirectory d root patterns ending ⟨root.anchor, root.parts ++ dirs⟩ entries
        return lists.flatten) =
      .ok (endings.map fun ending => (directories d.tree loc).flatMap fun (dirs, entries) =>
        ((candidatesIn ending dirs entries).filter (keeps d root patterns)).map root.descend) := by
    apply mapM_eq_ok_map
    intro ending hending
    rw [hlists ending hending]
    rfl
  unfold list
  rw [hroot]
  simp only [hall]
  simp only [candidates, List.filter_flatMap, List.map_flatMap]
  rfl

theorem build_of_directory (hdir : d.tree.get? loc = some .directory) (patterns : List WideText) :
    (build d root patterns).result = .ok ⟨root,
      (((candidates d.tree loc endings).filter (keeps d root patterns)).map
        root.descend).mergeSort Path.le⟩ := by
  have hlist := list_eq ht hshort hlooks hdirectory hroot hdir patterns
  simp only [build, Traced.result_bind, Traced.ask, Traced.result_ofExcept, hdirectory, hlist,
    Traced.mapError_ok, Except.bind]
  rfl

omit hshort in
theorem mem_kept_candidates_iff (hdir : d.tree.get? loc = some .directory)
    (patterns names : List WideText) :
    names ∈ (candidates d.tree loc endings).filter (keeps d root patterns) ↔
      (∀ name ∈ names, name ≠ Path.here ∧ name ≠ Path.up) ∧ IsThemeFile d root patterns names := by
  have hdirectories (names : List WideText) (h : d.tree.get? (loc ++ names) = some .directory) :=
    hlooks _ (.directory hdirectory hroot h)
  rw [List.mem_filter, mem_candidates_iff d.tree hdir, keeps_iff]
  constructor
  · intro h
    obtain ⟨⟨dirs, name, node, rfl, hget, hends⟩, hfile, hkept⟩ := h
    have hplain : ∀ n ∈ dirs ++ [name], n ≠ Path.here ∧ n ≠ Path.up := by
      intro n hn
      have hname := d.tree.isName_of_get? hget n (List.mem_append_right _ hn)
      obtain ⟨-, hhere, hup, -⟩ := (FileTree.isName_iff n).1 hname
      exact ⟨hhere, hup⟩
    have hdirs := d.tree.get?_init hget
    have hreal := (Disk.get?_eq_directory_iff ht hroot hdirectories hdir dirs
      fun n hn => hplain n (List.mem_append_left _ hn)).1 hdirs
    refine ⟨hplain, hdirectory, by simp, ?_, hfile, ⟨name, by simp, hends⟩, hkept⟩
    intro front hfront hpre hne
    rcases List.prefix_concat_iff.1 hpre with heq | hpre
    · exact absurd heq hne
    · exact hreal front hfront hpre
  · intro h
    obtain ⟨hplain, hfile⟩ := h
    obtain ⟨name, hlast, hends⟩ := hfile.ending
    obtain ⟨dirs, rfl⟩ := List.getLast?_eq_some_iff.1 hlast
    have hdirs : d.tree.get? (loc ++ dirs) = some .directory := by
      refine (Disk.get?_eq_directory_iff ht hroot hdirectories hdir dirs
        fun n hn => hplain n (List.mem_append_left _ hn)).2 fun front hfront hpre => ?_
      refine hfile.directories front hfront (hpre.trans (List.prefix_append _ _)) ?_
      intro heq
      subst heq
      have hlen := hpre.length_le
      rw [List.length_append, List.length_singleton] at hlen
      omega
    obtain ⟨node, hget⟩ := Disk.get?_of_isA ht hroot hdirs (hplain name (by simp)).1
      (hplain name (by simp)).2 hfile.file
    exact ⟨⟨dirs, name, node, rfl, hget, hends⟩, hfile.file, hfile.kept⟩

end

theorem build_of_not_directory {d : Disk} {root : Path} (h : d.isDirectory root = .ok false)
    (patterns : List WideText) : (build d root patterns).result = .ok ⟨root, []⟩ := by
  simp only [build, Traced.result_bind, Traced.ask, Traced.result_ofExcept, h, Traced.mapError_ok,
    Except.bind]
  rfl

theorem exists_build_of_looksUp {d : Disk} {root : Path} (ht : d.tree.HasShortNames)
    (hshort : root.HasShortParts) (hlooks : ∀ p, LooksUp d root p → Disk.isTooLong p = false)
    (patterns : List WideText) :
    ∃ files, (build d root patterns).result = .ok ⟨root, files⟩ ∧
      ∀ p, p ∈ files ↔ ∃ names, p = root.descend names ∧
        (∀ name ∈ names, name ≠ Path.here ∧ name ≠ Path.up) ∧ IsThemeFile d root patterns names := by
  obtain ⟨b, hb⟩ := Disk.exists_isA_eq ht Node.isDirectory hshort fun hnameable =>
    hlooks _ (.root hnameable)
  change d.isDirectory root = .ok b at hb
  cases b with
  | false =>
    refine ⟨[], build_of_not_directory hb patterns, fun p => ?_⟩
    simp only [List.not_mem_nil, false_iff]
    intro h
    obtain ⟨names, -, -, hfile⟩ := h
    rw [hfile.root_directory] at hb
    cases hb
  | true =>
    obtain ⟨loc, hroot, hdir⟩ := Disk.locate_of_isDirectory hb
    refine ⟨_, build_of_directory ht hshort hlooks hb hroot hdir patterns, fun p => ?_⟩
    rw [List.mem_mergeSort, List.mem_map]
    simp only [mem_kept_candidates_iff ht hlooks hb hroot hdir]
    constructor
    · intro h
      obtain ⟨names, hnames, rfl⟩ := h
      exact ⟨names, rfl, hnames⟩
    · intro h
      obtain ⟨names, rfl, hnames⟩ := h
      exact ⟨names, hnames, rfl⟩

theorem exists_build_eq {d : Disk} {root : Path} (ht : d.tree.HasShortNames)
    (hshort : root.HasShortParts) (hd : d.Fits root) (patterns : List WideText) :
    ∃ files, (build d root patterns).result = .ok ⟨root, files⟩ ∧
      ∀ p, p ∈ files ↔ ∃ names, p = root.descend names ∧
        (∀ name ∈ names, name ≠ Path.here ∧ name ≠ Path.up) ∧ IsThemeFile d root patterns names :=
  exists_build_of_looksUp ht hshort (fun _ => LooksUp.isTooLong_of_fits hd) patterns

end ThemeView

end ThemeLint
