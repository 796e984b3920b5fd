import ThemeLint.Proofs.Diagnosis
import ThemeLint.Proofs.PathOrder

set_option autoImplicit false

namespace ThemeLint

namespace FileTree

theorem nodup_below (t : FileTree) (loc : Location) : ((t.below loc).map Prod.fst).Nodup := by
  have hdistinct := List.pairwise_map.1 t.distinct
  refine List.pairwise_map.2 (hdistinct.filterMap _ ?_)
  intro e e' hne b hb b' hb' heq
  rw [Option.ite_none_right_eq_some, Option.some.injEq] at hb hb'
  obtain ⟨⟨hpre, -⟩, rfl⟩ := hb
  obtain ⟨⟨hpre', -⟩, rfl⟩ := hb'
  rw [List.isPrefixOf_iff_prefix, List.prefix_iff_eq_append] at hpre hpre'
  exact hne (hpre.symm.trans ((congrArg (loc ++ ·) heq).trans hpre'))

theorem nodup_children (t : FileTree) (dir : Location) : ((t.children dir).map Prod.fst).Nodup := by
  have hdistinct := List.pairwise_map.1 (t.nodup_below dir)
  refine List.pairwise_map.2 (hdistinct.filterMap _ ?_)
  intro e e' hne b hb b' hb' heq
  obtain ⟨names, node⟩ := e
  obtain ⟨names', node'⟩ := e'
  match names, names', hb, hb' with
  | [name], [name'], rfl, rfl => exact hne (congrArg (fun n => [n]) heq)

theorem get?_of_perm {t t' : FileTree} (h : t'.entries.Perm t.entries) : t'.get? = t.get? := by
  funext loc
  by_cases hloc : loc = []
  · rw [hloc, get?_nil, get?_nil]
  · refine Option.ext fun node => ?_
    rw [t'.get?_eq_some_iff hloc, t.get?_eq_some_iff hloc, h.mem_iff]

theorem walk_congr {t t' : FileTree} (h : t'.get? = t.get?) (links : Nat) (loc : Location)
    (names : List WideText) : t'.walk links loc names = t.walk links loc names := by
  induction links, loc, names using FileTree.walk.induct t with
  | case1 links loc => simp [walk]
  | case2 links loc name names hdir => simp [walk, h, hdir]
  | case3 links loc names hdir ih => simp [walk, h, hdir, ih]
  | case4 links loc names hdir hh ih => simp [walk, h, hdir, hh, ih]
  | case5 links loc name names hdir hh hu hs => simp [walk, h, hdir, hh, hu, hs]
  | case6 links loc name names hdir hh hu hs hget => simp [walk, h, hdir, hh, hu, hs, hget]
  | case7 loc name names hdir hh hu hs goal hget => simp [walk, h, hdir, hh, hu, hs, hget]
  | case8 loc name names hdir hh hu hs goal hget k base ih =>
    rw [walk, walk]
    simp only [h, hdir, hh, hu, hs, hget, if_false]
    exact ih
  | case9 links loc name names hdir hh hu hs node hlink hget ih =>
    have hplain := Node.isLink_eq_false hlink
    rw [t.walk_cons_entry links (not_not.1 hdir) hh hu (Nat.not_lt.1 hs) hget hplain,
      t'.walk_cons_entry links (h ▸ not_not.1 hdir) hh hu (Nat.not_lt.1 hs) (h ▸ hget) hplain, ih]

end FileTree

namespace Disk

/-- One disk holds what the other does, in whatever order their directories list it. -/
structure Relists (d' d : Disk) : Prop where
  here : d'.here = d.here
  entries : d'.tree.entries.Perm d.tree.entries

namespace Relists

variable {d d' : Disk} (h : d'.Relists d)

include h

theorem symm : d.Relists d' := ⟨h.here.symm, h.entries.symm⟩

theorem get? : d'.tree.get? = d.tree.get? := FileTree.get?_of_perm h.entries

theorem locate : d'.locate = d.locate := by
  funext p
  unfold Disk.locate
  rw [h.here, FileTree.walk_congr h.get?]

theorem nodeAt : d'.nodeAt = d.nodeAt := by
  funext p
  unfold Disk.nodeAt
  rw [h.locate, h.get?]

theorem isA (kind : Node → Bool) : d'.isA kind = d.isA kind := by
  funext p
  unfold Disk.isA
  rw [h.nodeAt]

theorem standsAt : d'.standsAt = d.standsAt := by
  funext p
  unfold Disk.standsAt
  rw [h.locate, h.nodeAt, h.get?]

theorem hasShortNames (ht : d.tree.HasShortNames) : d'.tree.HasShortNames where
  names e he := ht.names e (h.entries.mem_iff.1 he)
  targets loc target hlink := ht.targets loc target (h.entries.mem_iff.1 hlink)

end Relists

end Disk

namespace Path

theorem orderKey_descend (p : Path) (names : List WideText) :
    (p.descend names).orderKey = p.orderKey ++ names := by
  unfold orderKey descend
  cases p.anchor <;> rfl

end Path

namespace ThemeView

theorem nodup_directories (t : FileTree) (loc : Location) :
    ((directories t loc).map Prod.fst).Nodup := by
  have hroot : [] ∉ ((t.below loc).filter (·.2.isDirectory)).map Prod.fst := by
    intro h
    obtain ⟨⟨names, node⟩, hm, rfl⟩ := List.mem_map.1 h
    exact ((t.mem_below_iff loc _ _).1 (List.mem_filter.1 hm).1).1 rfl
  have hinside : (((t.below loc).filter (·.2.isDirectory)).map Prod.fst).Nodup :=
    (t.nodup_below loc).sublist (List.filter_sublist.map _)
  unfold directories
  rw [List.map_map]
  exact (List.map_id _).symm ▸ List.nodup_cons.2 ⟨hroot, hinside⟩

theorem ending_unique {name : WideText} {ending ending' : String} (hending : ending ∈ endings)
    (hending' : ending' ∈ endings) (h : Ends ending name) (h' : Ends ending' name) :
    ending = ending' := by
  have hunique : ∀ ending ∈ endings, ∀ ending' ∈ endings,
      (WideText.ofString ending).points <:+ (WideText.ofString ending').points →
        ending = ending' := by
    decide
  rcases List.suffix_or_suffix_of_suffix h h' with hsuffix | hsuffix
  · exact hunique _ hending _ hending' hsuffix
  · exact (hunique _ hending' _ hending hsuffix).symm

theorem exists_of_mem_candidatesIn {ending : String} {dirs names : List WideText}
    {entries : List (WideText × Node)} (h : names ∈ candidatesIn ending dirs entries) :
    ∃ name, names = dirs ++ [name] ∧ Ends ending name := by
  obtain ⟨name, hname, rfl⟩ := List.mem_map.1 h
  exact ⟨name, rfl, of_decide_eq_true (List.mem_filter.1 hname).2⟩

theorem nodup_candidates (t : FileTree) (loc : Location) : (candidates t loc endings).Nodup := by
  have hdistinct : endings.Nodup := by decide
  -- Within one directory the names differ, within one ending the directories, and then the endings.
  refine List.nodup_flatMap.2 ⟨fun ending hending => List.nodup_flatMap.2 ⟨?_, ?_⟩, ?_⟩
  · rintro ⟨dirs, entries⟩ hvisited
    obtain ⟨names, -, hentries⟩ := List.mem_map.1 hvisited
    obtain ⟨rfl, rfl⟩ := Prod.mk.inj hentries
    have hchildren := t.nodup_children (loc ++ names)
    refine (hchildren.sublist List.filter_sublist).map fun name name' heq => ?_
    simpa using heq
  · have hdirectories := List.pairwise_map.1 (nodup_directories t loc)
    refine hdirectories.imp fun {visited visited'} hne names h h' => ?_
    obtain ⟨name, rfl, -⟩ := exists_of_mem_candidatesIn h
    obtain ⟨name', heq, -⟩ := exists_of_mem_candidatesIn h'
    exact hne (List.append_inj_left' heq rfl)
  · refine hdistinct.imp_of_mem fun {ending ending'} hending hending' hne names h h' => ?_
    obtain ⟨visited, -, hm⟩ := List.mem_flatMap.1 h
    obtain ⟨visited', -, hm'⟩ := List.mem_flatMap.1 h'
    obtain ⟨name, rfl, hends⟩ := exists_of_mem_candidatesIn hm
    obtain ⟨name', heq, hends'⟩ := exists_of_mem_candidatesIn hm'
    obtain rfl : name = name' := by simpa using List.append_inj_right' heq rfl
    exact hne (ending_unique hending hending' hends hends')

theorem LooksUp.isTooLong_of_build {d : Disk} {root : Path} {patterns : List WideText}
    {view : ThemeView} (h : (build d root patterns).result = .ok view) {p : Path}
    (hp : LooksUp d root p) : Disk.isTooLong p = false := by
  have hvisited {loc : Location} {names : List WideText} (hdirectory : d.isDirectory root = .ok true)
      (hroot : d.locate root = .ok loc) (hget : d.tree.get? (loc ++ names) = some .directory)
      (ending : String) (hending : ending ∈ endings) :
      Answers d root ending (names, d.tree.children (loc ++ names)) := by
    obtain ⟨loc', hroot', hdir⟩ := Disk.locate_of_isDirectory hdirectory
    obtain rfl := Except.ok.inj (hroot.symm.trans hroot')
    exact (ensures_build d root patterns view h).2 loc hdirectory hroot ending hending _
      ((mem_directories_iff d.tree hdir _ _).2 ⟨hget, rfl⟩)
  have hliquid : ".liquid" ∈ endings := List.mem_cons_self
  cases hp with
  | root hnameable =>
    cases hdirectory : d.isDirectory root with
    | ok b => exact Disk.isTooLong_of_isA hdirectory hnameable
    | error fault =>
      unfold build at h
      rw [Traced.ask, hdirectory] at h
      cases h
  | directory hdirectory hroot hget =>
    exact (hvisited hdirectory hroot hget _ hliquid).directory
  | @link loc names name target hdirectory hroot hget =>
    have hchild := (d.tree.mem_children_iff_get? loc names name _).2 hget
    have hlink := (hvisited hdirectory hroot (d.tree.get?_init hget) _ hliquid).links _ hchild rfl
    exact Bool.eq_false_iff.2 fun hlong => hlink (Disk.nodeAt_of_isTooLong hlong)
  | @entry loc names name node hdirectory hroot hget hends hnameable =>
    obtain ⟨ending, hending, hends⟩ := hends
    have hchild := (d.tree.mem_children_iff_get? loc names name node).2 hget
    have hlisted := hvisited hdirectory hroot (d.tree.get?_init hget) ending hending
    obtain ⟨b, hfile⟩ := hlisted.named _ hchild hends
    exact Disk.isTooLong_of_isA hfile hnameable

theorem LooksUp.of_relists {d d' : Disk} (h : d'.Relists d) {root p : Path}
    (hp : LooksUp d' root p) : LooksUp d root p := by
  have hdirectories : d'.isDirectory = d.isDirectory := h.isA Node.isDirectory
  cases hp with
  | root hnameable => exact .root hnameable
  | directory hdirectory hroot hget =>
    exact .directory (hdirectories ▸ hdirectory) (h.locate ▸ hroot) (h.get? ▸ hget)
  | link hdirectory hroot hget =>
    exact .link (hdirectories ▸ hdirectory) (h.locate ▸ hroot) (h.get? ▸ hget)
  | entry hdirectory hroot hget hends hnameable =>
    exact .entry (hdirectories ▸ hdirectory) (h.locate ▸ hroot) (h.get? ▸ hget) hends hnameable

theorem IsThemeFile.of_relists {d d' : Disk} (h : d'.Relists d) {root : Path}
    {patterns names : List WideText} (hfile : IsThemeFile d' root patterns names) :
    IsThemeFile d root patterns names where
  root_directory := (congrFun (h.isA Node.isDirectory) root).symm.trans hfile.root_directory
  nonempty := hfile.nonempty
  directories front hfront hpre hne := h.standsAt ▸ hfile.directories front hfront hpre hne
  file := (congrFun (h.isA Node.isFile) _).symm.trans hfile.file
  ending := hfile.ending
  kept := hfile.kept

theorem isThemeFile_iff_of_relists {d d' : Disk} (h : d'.Relists d) (root : Path)
    (patterns names : List WideText) :
    IsThemeFile d' root patterns names ↔ IsThemeFile d root patterns names :=
  ⟨.of_relists h, .of_relists h.symm⟩

section

variable {d : Disk} {root : Path} (ht : d.tree.HasShortNames) (hshort : root.HasShortParts)
  (hlooks : ∀ p, LooksUp d root p → Disk.isTooLong p = false)

include ht hshort hlooks

theorem pairwise_of_build {patterns : List WideText} {view : ThemeView}
    (h : (build d root patterns).result = .ok view) :
    view.files.Pairwise fun p q => p.orderKey < q.orderKey := by
  obtain ⟨b, hb⟩ := Disk.exists_isA_eq ht Node.isDirectory hshort fun hnameable =>
    hlooks _ (.root hnameable)
  cases b with
  | false =>
    obtain rfl := Except.ok.inj ((build_of_not_directory hb patterns).symm.trans h)
    exact .nil
  | true =>
    obtain ⟨loc, hroot, hdir⟩ := Disk.locate_of_isDirectory hb
    obtain rfl := Except.ok.inj
      ((build_of_directory ht hshort hlooks hb hroot hdir patterns).symm.trans h)
    refine Path.pairwise_mergeSort ?_
    rw [List.map_map]
    refine ((nodup_candidates d.tree loc).sublist List.filter_sublist).map fun names names' heq => ?_
    simp only [Function.comp, Path.orderKey_descend] at heq
    exact List.append_cancel_left heq

end

section

open Session

def backwardDisk : Disk := Disk.ofDirectory "p" (projectEntries ["a.liquid"]).reverse

theorem relists_backwardDisk : backwardDisk.Relists smallDisk where
  here := rfl
  entries := by
    have hplain : Disk.IsPlain "p" (projectEntries ["a.liquid"]).reverse :=
      ⟨by decide, by decide, by decide⟩
    rw [backwardDisk, smallDisk, Disk.entries_ofDirectory hplain,
      Disk.entries_ofDirectory isPlain_smallDisk]
    exact ((List.reverse_perm _).map _).cons _

theorem build_longDisk : (build longDisk longRoot []).result =
    .error (.read (.file ⟨.nameTooLong, (longRoot.child longFile).text⟩)) := by
  rw [build, Traced.ask, isDirectory_longRoot, Traced.mapError_ok, Traced.ofExcept_ok_bind,
    if_neg (by simp), Traced.result_bind, list_longDisk]
  rfl

end

end ThemeView

end ThemeLint
