import ThemeLint.Proofs.ConfigFormat
import ThemeLint.Proofs.ProjectRoot
import ThemeLint.Proofs.TextualWalk
import ThemeLint.Proofs.ThemeFiles

/-!
The root that a configuration file gives, which is found textually, and the directory that the
system comes to with the same text, seen from the directory of the file. Without links the root is the
path of that directory, and a view of it holds the files of the theme that are stored below.
-/

set_option autoImplicit false

namespace ThemeLint

namespace Disk

variable {d : Disk} {loc : Location}

/-- The system, going through a text name by name, comes to a directory. -/
structure Reaches (d : Disk) (text : WideText) (loc : Location) : Prop where
  walk : d.tree.walk linkLimit (if startsAtRoot text then [] else d.here) (targetNames text) = .ok loc
  directory : d.tree.get? loc = some .directory

section

variable (hlinkless : d.tree.IsLinkless) (hstorable : d.tree.IsStorable) {node : Node}
  (hget : d.tree.get? loc = some node) (hlen : isTooLong ⟨.root, loc⟩ = false)

include hlinkless hstorable hget hlen

theorem locate_root : d.locate ⟨.root, loc⟩ = .ok loc := by
  rw [d.locate_eq hlen]
  exact d.tree.walk_of_get? (hstorable.hasShortNames hlinkless) linkLimit hget
    (hlinkless.of_get? hget)

theorem isA_root (kind : Node → Bool) : d.isA kind ⟨.root, loc⟩ = .ok (kind node) :=
  isA_of_locate d kind (hstorable.all_isNameable hget)
    (locate_root hlinkless hstorable hget hlen) hget

end

end Disk

namespace ThemeView

/-- A file of a theme lies below a directory: a regular one, with an ending of templates or
settings. -/
structure HoldsThemeFile (t : FileTree) (loc : Location) (names : List WideText) : Prop where
  file : ∃ node, t.get? (loc ++ names) = some node ∧ node.isFile = true
  ending : ∃ name, names.getLast? = some name ∧ ∃ ending ∈ endings, Ends ending name

section

variable {d : Disk} {loc : Location} (hlinkless : d.tree.IsLinkless) (hstorable : d.tree.IsStorable)
  (hdir : d.tree.get? loc = some .directory)

include hlinkless hstorable hdir

theorem mem_kept_iff (hlooks : ∀ p, LooksUp d ⟨.root, loc⟩ p → Disk.isTooLong p = false)
    (names : List WideText) :
    names ∈ (candidates d.tree loc endings).filter (keeps d ⟨.root, loc⟩ []) ↔
      HoldsThemeFile d.tree loc names := by
  have hlen := hlooks _ (.root (hstorable.all_isNameable hdir))
  have hdirectory : d.isDirectory ⟨.root, loc⟩ = .ok true :=
    Disk.isA_root hlinkless hstorable hdir hlen Node.isDirectory
  have hroot := Disk.locate_root hlinkless hstorable hdir hlen
  have hisFile {dirs : List WideText} {name : WideText} {node : Node}
      (hget : d.tree.get? (loc ++ (dirs ++ [name])) = some node)
      (hends : ∃ ending ∈ endings, Ends ending name) :
      d.isFile ((⟨.root, loc⟩ : Path).descend (dirs ++ [name])) = .ok node.isFile :=
    Disk.isA_root hlinkless hstorable hget
      (hlooks _ (.entry hdirectory hroot hget hends (hstorable.all_isNameable hget))) Node.isFile
  rw [List.mem_filter, mem_candidates_iff d.tree hdir, keeps_iff]
  constructor
  · intro h
    obtain ⟨⟨dirs, name, node, rfl, hget, hends⟩, hfile, -⟩ := h
    rw [hisFile hget hends] at hfile
    exact ⟨⟨node, hget, Except.ok.inj hfile⟩, name, by simp, hends⟩
  · intro h
    obtain ⟨node, hget, hfile⟩ := h.file
    obtain ⟨name, hlast, hends⟩ := h.ending
    obtain ⟨dirs, rfl⟩ := List.getLast?_eq_some_iff.1 hlast
    refine ⟨⟨dirs, name, node, rfl, hget, hends⟩, ?_, nofun⟩
    rw [hisFile hget hends, hfile]

theorem contains_iff_of_build {view : ThemeView}
    (h : (build d ⟨.root, loc⟩ []).result = .ok view) (p : Path) :
    view.contains p = true ↔ ∃ names, p = ⟨.root, loc ++ names⟩ ∧ HoldsThemeFile d.tree loc names := by
  have hlooks (p : Path) (hp : LooksUp d ⟨.root, loc⟩ p) := hp.isTooLong_of_build h
  have hlen := hlooks _ (.root (hstorable.all_isNameable hdir))
  have ht := hstorable.hasShortNames hlinkless
  have hshort : (⟨.root, loc⟩ : Path).HasShortParts := ht.of_get? hdir
  have hbuild := build_of_directory ht hshort hlooks
    (Disk.isA_root hlinkless hstorable hdir hlen Node.isDirectory)
    (Disk.locate_root hlinkless hstorable hdir hlen) hdir []
  obtain rfl := Except.ok.inj (hbuild.symm.trans h)
  rw [contains, List.contains_iff_mem, List.mem_mergeSort, List.mem_map]
  refine exists_congr fun names => ?_
  rw [mem_kept_iff hlinkless hstorable hdir hlooks, and_comm, eq_comm]
  rfl

theorem exists_build_iff : (∃ view, (build d ⟨.root, loc⟩ []).result = .ok view) ↔
    ∀ p, LooksUp d ⟨.root, loc⟩ p → Disk.isTooLong p = false := by
  constructor
  · intro h p hp
    obtain ⟨view, hview⟩ := h
    exact hp.isTooLong_of_build hview
  · intro hlooks
    have ht := hstorable.hasShortNames hlinkless
    obtain ⟨files, hview, -⟩ := exists_build_of_looksUp ht (ht.of_get? hdir) hlooks []
    exact ⟨_, hview⟩

end

end ThemeView

namespace Config

/-- A text as a directory sees it: behind the directory, unless it starts at the root. -/
def seenFrom (dir text : WideText) : WideText :=
  if startsAtRoot text then text else dir ++ "/" ++ text

section

variable {dir text : WideText} (hdir : (Path.ofText dir).anchor = .root)
  (htext : (Path.ofText text).anchor ≠ .doubleRoot)

include hdir

theorem startsAtRoot_seenFrom : startsAtRoot (seenFrom dir text) = true := by
  have hdir : startsAtRoot dir = true := by
    rw [← Path.isAbsolute_ofText, Path.isAbsolute, hdir]
    rfl
  unfold seenFrom
  split
  next h => exact h
  next =>
    obtain ⟨rest, rfl⟩ := Path.exists_eq_slash_cons hdir
    rfl

include htext

theorem join_eq : (Path.ofText dir).join (Path.ofText text) =
    ⟨.root, Path.partsOf (seenFrom dir text).points⟩ := by
  have habsolute := Path.isAbsolute_ofText text
  unfold Path.isAbsolute at habsolute
  unfold Path.join seenFrom
  rw [← habsolute]
  cases hanchor : (Path.ofText text).anchor with
  | relative =>
    have hparts := Path.partsOf_append_cons dir.points text.points
    rw [List.append_cons] at hparts
    exact Path.mk.injEq .. ▸ ⟨hdir, hparts.symm⟩
  | root => exact Path.mk.injEq .. ▸ ⟨hanchor, rfl⟩
  | doubleRoot => exact absurd hanchor htext

end

variable {d : Disk} {dir text : WideText} {loc : Location}

/-- A directory holds an accepted configuration file that gives a text for the root, and the system,
seen from there, takes the text to a directory. -/
structure PointsTo (d : Disk) (dir text : WideText) (loc : Location) : Prop where
  linkless : d.tree.IsLinkless
  storable : d.tree.IsStorable
  dir_anchor : (Path.ofText dir).anchor = .root
  text_anchor : (Path.ofText text).anchor ≠ .doubleRoot
  file : ∃ entries, Holds d (Path.ofText dir) entries ∧ IsAccepted (.mapping entries) ∧
    entries.lookup (.str "root") = some (.scalar (.str text))
  reaches : d.Reaches (seenFrom dir text) loc

theorem PointsTo.normalize_eq (h : PointsTo d dir text loc) :
    ((Path.ofText dir).join (Path.ofText text)).normalize = ⟨.root, loc⟩ := by
  have hwalk := h.reaches.walk
  rw [startsAtRoot_seenFrom h.dir_anchor, if_pos rfl] at hwalk
  have hreverse := FileTree.reverse_of_walk h.linkless List.not_mem_nil hwalk
  rw [Path.collapse, Path.filter_targetNames, List.reverse_nil] at hreverse
  rw [join_eq h.dir_anchor h.text_anchor]
  exact Path.mk.injEq .. ▸ ⟨rfl, List.reverse_eq_iff.2 hreverse.symm⟩

theorem PointsTo.exists_load (h : PointsTo d dir text loc) (known : List String) :
    ∃ config, (load d known (Path.ofText dir)).result = .ok config ∧ config.root = ⟨.root, loc⟩ := by
  obtain ⟨entries, hholds, haccepted, hlookup⟩ := h.file
  rw [hholds.load_eq]
  rcases ofEntries_cases known (Path.ofText dir) (sourceOf d (Path.ofText dir)) entries with
    ⟨-, config, hconfig⟩ | ⟨failure, hrefused, -⟩
  · have hroot := (ofEntries_eq_ok_iff.1 hconfig).1
    simp only [rootOf, hlookup] at hroot
    exact ⟨config, hconfig, (Except.ok.inj hroot).symm.trans h.normalize_eq⟩
  · exact absurd haccepted hrefused.not_isAccepted

def wayBack : WideText := "../p//."

def wayText : String := "root: ../p//.\n"

def wayEntries : Entries := [(.str "root", .scalar (.str wayBack))]

theorem load_wayText : Yaml.load wayText = .ok (.mapping wayEntries) :=
  load_eq_of_flat? (show (Yaml.load wayText).toOption.bind flat? =
    some [(.str "root", .str wayBack)] by decide +kernel)

theorem isAccepted_wayEntries : IsAccepted (.mapping wayEntries) := by
  refine .mapping (fun value hvalue => ?_) nofun (List.forall_mem_singleton.2 nofun)
  cases hvalue
  exact ⟨wayBack, rfl⟩

theorem reaches_wayBack (hdir : d.tree.get? ["p"] = some .directory) :
    d.Reaches (seenFrom "/p" wayBack) ["p"] where
  walk := by
    have hnames : targetNames (seenFrom "/p" wayBack) =
        (List.replicate 1 [("p" : WideText), Path.up]).flatten ++ [("p" : WideText), Path.here] := by
      decide
    have hsize : nameSize "p" ≤ nameLimit := by decide
    have hbelow : d.tree.get? ([] ++ [("p" : WideText)]) = some .directory := hdir
    rw [startsAtRoot_seenFrom (by decide), if_pos rfl, hnames,
      d.tree.walk_back_and_forth _ hbelow hsize,
      d.tree.walk_cons_entry _ rfl (by decide) (by decide) hsize hbelow rfl]
    rw [FileTree.walk, if_neg (not_not.2 hbelow), if_pos rfl, FileTree.walk, List.nil_append]
  directory := hdir

theorem pointsTo_wayBack (hlinkless : d.tree.IsLinkless) (hstorable : d.tree.IsStorable)
    (hfile : d.tree.get? ["p", fileName] = some (.file wayText.toUTF8.toList)) :
    PointsTo d "/p" wayBack ["p"] where
  linkless := hlinkless
  storable := hstorable
  dir_anchor := by decide
  text_anchor := by decide
  file := by
    have hdir : Path.ofText "/p" = ⟨.root, ["p"]⟩ := by decide
    have hlen : Disk.isTooLong ⟨.root, ["p", fileName]⟩ = false := by decide
    have hloc := Disk.locate_root hlinkless hstorable hfile hlen
    have hfault : Disk.pathFault? ⟨.root, ["p", fileName]⟩ = none := by decide
    have hbytes : d.bytesAt ⟨.root, ["p", fileName]⟩ = .ok wayText.toUTF8.toList := by
      simp only [Disk.bytesAt, hfault, (Disk.nodeAt_eq_ok_iff _ _ _).2 ⟨_, hloc, hfile⟩]
    have htext : d.textAt ⟨.root, ["p", fileName]⟩ = .ok wayText := by
      rw [Disk.textAt, hbytes]
      decide +kernel
    rw [hdir]
    exact ⟨wayEntries,
      .mapping (Disk.isA_root hlinkless hstorable hfile hlen _) htext load_wayText,
      isAccepted_wayEntries, rfl⟩
  reaches := by
    have hbelow : d.tree.get? ([("p" : WideText)] ++ [(fileName : WideText)]) = _ := hfile
    exact reaches_wayBack (d.tree.get?_parent hbelow)

/-- A theme with one template and some directories with long names, one in another. -/
def nestedTheme (n : Nat) : Disk where
  tree := (List.range n).foldl
    (fun t k => t.add ("p" :: List.replicate k Session.longName) Session.longName .directory)
    (Disk.ofDirectory "p" [(fileName, .file wayText.toUTF8.toList), ("a.liquid", .file [])]).tree
  here := []

theorem nestedTheme_holds : ∀ n ∈ [0, 17],
    (∀ e ∈ (nestedTheme n).tree.entries, e.2.isLink = false ∧
      ∀ name ∈ e.1, nameSize name ≤ nameLimit ∧ name.points.all Disk.isNameable = true) ∧
    (nestedTheme n).tree.get? ["p", fileName] = some (.file wayText.toUTF8.toList) ∧
    (nestedTheme n).tree.get? ["p", "a.liquid"] = some (.file []) := by
  decide +kernel

theorem pointsTo_nestedTheme {n : Nat} (hn : n ∈ [0, 17]) :
    PointsTo (nestedTheme n) "/p" wayBack ["p"] := by
  obtain ⟨hentries, hfile, -⟩ := nestedTheme_holds n hn
  exact pointsTo_wayBack (fun e he => (hentries e he).1)
    ⟨fun e he name hname => ((hentries e he).2 name hname).1,
      fun e he name hname => ((hentries e he).2 name hname).2⟩ hfile

theorem holdsThemeFile_nestedTheme {n : Nat} (hn : n ∈ [0, 17]) :
    ThemeView.HoldsThemeFile (nestedTheme n).tree ["p"] ["a.liquid"] where
  file := ⟨_, (nestedTheme_holds n hn).2.2, rfl⟩
  ending := ⟨"a.liquid", rfl, ".liquid", by decide, by decide⟩

theorem fits_nestedTheme : (nestedTheme 0).Fits ⟨.root, ["p"]⟩ where
  root_short := by decide
  below_short := by
    have hall : ∀ e ∈ (nestedTheme 0).tree.entries, Disk.isTooLong ⟨.root, e.1⟩ = false := by
      decide +kernel
    have hpoints := pointsTo_nestedTheme (n := 0) (by decide)
    have hroot := Disk.locate_root hpoints.linkless hpoints.storable hpoints.reaches.directory
      (by decide)
    intro loc hloc names node hentry
    obtain rfl := Except.ok.inj (hroot.symm.trans hloc)
    rw [Path.descend]
    exact hall (_, node) hentry

def ShowsAll : Prop :=
  ∀ (d : Disk) (known : List String) (dir text : WideText) (loc : Location) (config : Config),
    PointsTo d dir text loc → (load d known (Path.ofText dir)).result = .ok config →
    ∀ names, ThemeView.HoldsThemeFile d.tree loc names →
      ∃ view, (ThemeView.build d config.root []).result = .ok view ∧
        view.contains ⟨.root, loc ++ names⟩ = true

def deepNames : List WideText := List.replicate 17 Session.longName

end Config

end ThemeLint
