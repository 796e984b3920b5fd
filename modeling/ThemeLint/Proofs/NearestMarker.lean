import ThemeLint.Proofs.ProjectRoot

/-!
Where the search for a project ends. It goes up from a path as the path is written, and the nearest
directory with the marker ends it, or the first path on the way that is too long to be looked up.
A configuration file at any height comes before a repository, so the root is the path itself or lies
above it.
-/

set_option autoImplicit false

namespace ThemeLint

namespace FileTree

theorem isLink_of_walk (t : FileTree) {links : Nat} {loc target : Location} {names : List WideText}
    (hloc : ∀ node, t.get? loc = some node → node.isLink = false)
    (h : t.walk links loc names = .ok target) :
    ∀ node, t.get? target = some node → node.isLink = false := by
  induction links, loc, names using FileTree.walk.induct t with
  | case1 links loc =>
    rw [walk] at h
    rwa [← Except.ok.inj h]
  | case2 links loc name names hdir =>
    rw [walk, if_pos hdir] at h
    cases h
  | case3 links loc names hdir ih =>
    rw [walk, if_neg hdir, if_pos rfl] at h
    exact ih hloc h
  | case4 links loc names hdir hh ih =>
    rw [walk, if_neg hdir, if_neg hh, if_pos rfl] at h
    refine ih ?_ h
    have hparent : t.get? loc.dropLast = some .directory := by
      cases loc using List.reverseRecOn with
      | nil => rfl
      | append_singleton loc name =>
        rw [List.dropLast_concat]
        exact t.get?_parent (not_not.1 hdir)
    rw [hparent]
    rintro node ⟨⟩
    rfl
  | case5 links loc name names hdir hh hu hs =>
    rw [walk, if_neg hdir, if_neg hh, if_neg hu, if_pos hs] at h
    cases h
  | case6 links loc name names hdir hh hu hs hget =>
    rw [walk, if_neg hdir, if_neg hh, if_neg hu, if_neg hs] at h
    simp only [hget] at h
    cases h
  | case7 loc name names hdir hh hu hs goal hget =>
    rw [walk, if_neg hdir, if_neg hh, if_neg hu, if_neg hs] at h
    simp only [hget] at h
    cases h
  | case8 loc name names hdir hh hu hs goal hget k base ih =>
    rw [walk, if_neg hdir, if_neg hh, if_neg hu, if_neg hs] at h
    simp only [hget] at h
    refine ih ?_ h
    -- The target of a link is walked from the top or from where the link stands.
    simp only [base]
    split
    · rintro node ⟨⟩
      rfl
    · exact hloc
  | case9 links loc name names hdir hh hu hs node hlink hget ih =>
    have hplain := Node.isLink_eq_false hlink
    rw [t.walk_cons_entry links (not_not.1 hdir) hh hu (Nat.not_lt.1 hs) hget hplain] at h
    refine ih ?_ h
    rw [hget]
    rintro node ⟨⟩
    exact hplain

end FileTree

namespace Path

def IsBelow (p base : Path) : Prop := ∃ names, names ≠ [] ∧ p = base.descend names

theorem IsBelow.length_lt {p base : Path} (h : p.IsBelow base) :
    base.parts.length < p.parts.length := by
  obtain ⟨names, hnames, rfl⟩ := h
  have hpos := List.length_pos_iff.2 hnames
  rw [descend, List.length_append]
  omega

theorem isBelow_parent {p : Path} (h : p.parts ≠ []) : p.IsBelow p.parent := by
  obtain ⟨anchor, parts⟩ := p
  refine ⟨[parts.getLast h], List.cons_ne_nil _ _, ?_⟩
  rw [descend, parent, List.dropLast_concat_getLast]

theorem mem_parents_iff (p dir : Path) : dir ∈ p.parents ↔ p.IsBelow dir := by
  obtain ⟨anchor, parts⟩ := p
  simp only [parents, List.mem_map, List.mem_reverse, List.mem_range]
  constructor
  · intro h
    obtain ⟨n, hn, rfl⟩ := h
    refine ⟨parts.drop n, ?_, ?_⟩
    · rw [ne_eq, List.drop_eq_nil_iff]
      omega
    · rw [descend, List.take_append_drop]
  · intro h
    have hlt := h.length_lt
    obtain ⟨names, -, heq⟩ := h
    obtain ⟨rfl, rfl⟩ := Path.mk.inj heq
    exact ⟨dir.parts.length, hlt, by rw [List.take_left]⟩

theorem pairwise_parents (p : Path) : p.parents.Pairwise IsBelow := by
  obtain ⟨anchor, parts⟩ := p
  rw [parents, List.pairwise_map, List.pairwise_reverse]
  refine List.Pairwise.imp_of_mem ?_ List.pairwise_lt_range
  intro far near _ hnear hlt
  replace hnear : near < parts.length := List.mem_range.1 hnear
  refine ⟨(parts.take near).drop far, ?_, ?_⟩
  · rw [ne_eq, List.drop_eq_nil_iff, List.length_take]
    omega
  · have hfar : parts.take far = (parts.take near).take far := by
      rw [List.take_take, Nat.min_eq_left hlt.le]
    rw [descend, hfar, List.take_append_drop]

instance (p : Path) : Decidable p.HasShortParts :=
  inferInstanceAs (Decidable (∀ part ∈ p.parts, nameSize part ≤ nameLimit))

theorem HasShortParts.of_isBelow {p base : Path} (hp : p.HasShortParts) (h : p.IsBelow base) :
    base.HasShortParts := by
  obtain ⟨names, -, rfl⟩ := h
  exact fun part hpart => hp part (List.mem_append_left _ hpart)

theorem HasShortParts.join {p q : Path} (hp : p.HasShortParts) (hq : q.HasShortParts) :
    (p.join q).HasShortParts := by
  unfold Path.join
  split
  · exact hp.descend hq
  · exact hq

end Path

namespace Disk

/-- What a path leads to once every link on it is followed. A link that leads nowhere, or back to
itself, is not followed to anything. -/
def Leads (d : Disk) (p : Path) (node : Node) : Prop :=
  p.parts.all (·.points.all isNameable) = true ∧
    ∃ loc, d.locate p = .ok loc ∧ d.tree.get? loc = some node ∧ node.isLink = false

def Exists (d : Disk) (p : Path) : Prop := ∃ node, d.Leads p node

def IsRefused (p : Path) : Prop :=
  p.parts.all (·.points.all isNameable) = true ∧ isTooLong p = true

theorem isDirectory_eq_true_iff (d : Disk) (p : Path) :
    d.isDirectory p = .ok true ↔ d.Leads p .directory := by
  constructor
  · intro h
    obtain ⟨loc, hloc, hget⟩ := locate_of_isDirectory h
    exact ⟨((isA_eq_true_iff d _ p).1 h).1, loc, hloc, hget, rfl⟩
  · intro h
    obtain ⟨hnameable, loc, hloc, hget, -⟩ := h
    exact isA_of_locate d Node.isDirectory hnameable hloc hget

theorem Leads.not_isRefused {d : Disk} {p : Path} {node : Node} (h : d.Leads p node) :
    ¬ IsRefused p := by
  obtain ⟨-, loc, hloc, -⟩ := h
  intro hrefused
  have hlen := isTooLong_of_locate hloc
  rw [hrefused.2] at hlen
  cases hlen

theorem isA_eq_error_iff {d : Disk} (ht : d.tree.HasShortNames) {kind : Node → Bool} {p : Path}
    (hp : p.HasShortParts) (fault : FileFault) :
    d.isA kind p = .error fault ↔ IsRefused p ∧ fault = ⟨.nameTooLong, p.text⟩ := by
  constructor
  · intro h
    refine ⟨?_, failsAs_isA d kind p fault h⟩
    by_contra hrefused
    obtain ⟨b, hb⟩ := exists_isA_eq ht kind hp fun hnameable =>
      Bool.eq_false_iff.2 fun hlen => hrefused ⟨hnameable, hlen⟩
    rw [hb] at h
    cases h
  · intro h
    obtain ⟨⟨hnameable, hlen⟩, rfl⟩ := h
    exact isA_of_isTooLong d kind hnameable hlen

section Here

variable {d : Disk} (hhere : d.tree.get? d.here = some .directory)

include hhere

theorem isLink_of_locate {p : Path} {loc : Location} {node : Node} (hloc : d.locate p = .ok loc)
    (hget : d.tree.get? loc = some node) : node.isLink = false := by
  rw [d.locate_eq (isTooLong_of_locate hloc)] at hloc
  refine d.tree.isLink_of_walk ?_ hloc node hget
  split
  · rintro node ⟨⟩
    rfl
  · rw [hhere]
    rintro node ⟨⟩
    rfl

theorem exists?_eq_true_iff (p : Path) : d.exists? p = .ok true ↔ d.Exists p := by
  constructor
  · intro h
    obtain ⟨hnameable, node, hnode, -⟩ := (isA_eq_true_iff d _ p).1 h
    obtain ⟨loc, hloc, hget⟩ := (nodeAt_eq_ok_iff d p node).1 hnode
    exact ⟨node, hnameable, loc, hloc, hget, isLink_of_locate hhere hloc hget⟩
  · intro h
    obtain ⟨node, hnameable, loc, hloc, hget, -⟩ := h
    exact isA_of_locate d (fun _ => true) hnameable hloc hget

theorem leads_of_no_parts {p : Path} (hp : p.parts = []) : d.Leads p .directory := by
  have hlen : isTooLong p = false := by
    obtain ⟨anchor, parts⟩ := p
    cases hp
    cases anchor <;> decide
  have hloc : d.locate p = .ok (if p.isAbsolute then [] else d.here) := by
    rw [d.locate_eq hlen, hp, FileTree.walk]
  refine ⟨by rw [hp]; rfl, _, hloc, ?_, rfl⟩
  split
  · rfl
  · exact hhere

end Here

end Disk

namespace Config

variable {d : Disk} {path marker dir root : Path}

/-- Where a search from a path may end: at the path, if a directory is there, and above it. -/
inductive Searched (d : Disk) (path : Path) : Path → Prop where
  | here : d.Leads path .directory → Searched d path path
  | above {dir : Path} : path.IsBelow dir → Searched d path dir

/-- A place of a search that has a property, with none below it that has. -/
structure Nearest (P : Path → Prop) (d : Disk) (path dir : Path) : Prop where
  searched : Searched d path dir
  holds : P dir
  least : ∀ near, Searched d path near → near.IsBelow dir → ¬ P near

/-- What ends a search at a directory: the marker in it, or its path if that is not taken. -/
def Ends (d : Disk) (marker dir : Path) : Prop :=
  d.Exists (dir.join marker) ∨ Disk.IsRefused (dir.join marker)

inductive Finds (d : Disk) (path marker : Path) : Except FileFault (Option Path) → Prop where
  | refused : Disk.IsRefused path → Finds d path marker (.error ⟨.nameTooLong, path.text⟩)
  | found {dir : Path} : ¬ Disk.IsRefused path → Nearest (Ends d marker) d path dir →
      d.Exists (dir.join marker) → Finds d path marker (.ok (some dir))
  | refusedAt {dir : Path} : ¬ Disk.IsRefused path → Nearest (Ends d marker) d path dir →
      Disk.IsRefused (dir.join marker) →
      Finds d path marker (.error ⟨.nameTooLong, (dir.join marker).text⟩)
  | nowhere : ¬ Disk.IsRefused path → (∀ dir, Searched d path dir → ¬ Ends d marker dir) →
      Finds d path marker (.ok none)

inductive Discovers (d : Disk) (path : Path) : Except FileFault Path → Prop where
  | configured {root : Path} : Finds d path (Path.ofText fileName) (.ok (some root)) →
      Discovers d path (.ok root)
  | repository {root : Path} : Finds d path (Path.ofText fileName) (.ok none) →
      Finds d path (Path.ofText repositoryMark) (.ok (some root)) → Discovers d path (.ok root)
  | here : Finds d path (Path.ofText fileName) (.ok none) →
      Finds d path (Path.ofText repositoryMark) (.ok none) → d.Leads path .directory →
      Discovers d path (.ok path)
  | above : Finds d path (Path.ofText fileName) (.ok none) →
      Finds d path (Path.ofText repositoryMark) (.ok none) → ¬ d.Leads path .directory →
      Discovers d path (.ok path.parent)
  | refused {fault : FileFault} : Finds d path (Path.ofText fileName) (.error fault) →
      Discovers d path (.error fault)
  | refusedLater {fault : FileFault} : Finds d path (Path.ofText fileName) (.ok none) →
      Finds d path (Path.ofText repositoryMark) (.error fault) → Discovers d path (.error fault)

/-- In a list that goes up, the first member with a property is the one with none below it. -/
theorem isFirst_iff_of_pairwise {P : Path → Prop} {dirs : List Path}
    (hdirs : dirs.Pairwise Path.IsBelow) (dir : Path) :
    IsFirst P dirs dir ↔
      dir ∈ dirs ∧ P dir ∧ ∀ near ∈ dirs, near.IsBelow dir → ¬ P near := by
  constructor
  · intro h
    refine ⟨h.mem, h.holds, fun near hnear hbelow => ?_⟩
    obtain ⟨before, later, rfl, -, hbefore⟩ := h
    have hlt := hbelow.length_lt
    rcases List.mem_append.1 hnear with hnear | hnear
    · exact hbefore near hnear
    -- What comes later is above.
    · rcases List.mem_cons.1 hnear with rfl | hnear
      · exact absurd hlt (Nat.lt_irrefl _)
      · have habove := (List.pairwise_cons.1 (List.pairwise_append.1 hdirs).2.1).1 near hnear
        have hgt := habove.length_lt
        omega
  · intro h
    obtain ⟨hmem, hdir, hnone⟩ := h
    obtain ⟨before, later, rfl⟩ := List.append_of_mem hmem
    refine ⟨before, later, rfl, hdir, fun near hnear => ?_⟩
    exact hnone near (List.mem_append_left _ hnear)
      ((List.pairwise_append.1 hdirs).2.2 near hnear dir List.mem_cons_self)

theorem firstWith_of_isFirst {dirs : List Path}
    (h : IsFirst (fun dir => d.exists? (dir.join marker) ≠ .ok false) dirs dir) :
    firstWith d marker dirs = (d.exists? (dir.join marker)).map fun _ => some dir := by
  obtain ⟨before, later, rfl, hdir, hbefore⟩ := h
  induction before with
  | nil =>
    rw [List.nil_append, firstWith]
    cases hexists : d.exists? (dir.join marker) with
    | error fault => rfl
    | ok present =>
      cases present with
      | false => exact absurd hexists hdir
      | true => rfl
  | cons other before ih =>
    rw [List.forall_mem_cons, not_not] at hbefore
    rw [List.cons_append, firstWith, hbefore.1]
    exact ih hbefore.2

theorem firstWith_of_forall {dirs : List Path}
    (h : ∀ dir ∈ dirs, d.exists? (dir.join marker) = .ok false) :
    firstWith d marker dirs = .ok none := by
  induction dirs with
  | nil => rfl
  | cons dir dirs ih =>
    rw [List.forall_mem_cons] at h
    rw [firstWith, h.1]
    exact ih h.2

section Search

variable (ht : d.tree.HasShortNames) (hhere : d.tree.get? d.here = some .directory)
  (hpath : path.HasShortParts)

include ht

include hhere in
theorem ends_iff (hdir : (dir.join marker).HasShortParts) :
    Ends d marker dir ↔ d.exists? (dir.join marker) ≠ .ok false := by
  cases h : d.exists? (dir.join marker) with
  | error fault =>
    have hrefused := ((Disk.isA_eq_error_iff ht hdir fault).1 h).1
    exact iff_of_true (.inr hrefused) nofun
  | ok present =>
    cases present with
    | true => exact iff_of_true (.inl ((Disk.exists?_eq_true_iff hhere _).1 h)) nofun
    | false =>
      refine iff_of_false ?_ (not_not.2 rfl)
      rintro (hexists | hrefused)
      · rw [(Disk.exists?_eq_true_iff hhere _).2 hexists] at h
        cases h
      · rw [Disk.exists?, (Disk.isA_eq_error_iff ht hdir _).2 ⟨hrefused, rfl⟩] at h
        cases h

include hpath

omit ht in
theorem Searched.hasShortParts (h : Searched d path dir) : dir.HasShortParts := by
  cases h with
  | here => exact hpath
  | above h => exact hpath.of_isBelow h

theorem exists_findRoot_eq (hrefused : ¬ Disk.IsRefused path) :
    ∃ dirs, (∀ marker, findRoot d path marker = firstWith d (Path.ofText marker) dirs) ∧
      dirs.Pairwise Path.IsBelow ∧ ∀ dir, dir ∈ dirs ↔ Searched d path dir := by
  cases hdir : d.isDirectory path with
  | error fault => exact absurd ((Disk.isA_eq_error_iff ht hpath fault).1 hdir).1 hrefused
  | ok present =>
    refine ⟨(if present then [path] else []) ++ path.parents, fun marker => ?_, ?_, fun dir => ?_⟩
    · rw [findRoot, hdir]
      rfl
    · cases present with
      | false => exact path.pairwise_parents
      | true =>
        exact List.pairwise_cons.2 ⟨fun dir => (path.mem_parents_iff dir).1, path.pairwise_parents⟩
    · rw [List.mem_append, path.mem_parents_iff]
      constructor
      · rintro (hhere | habove)
        · cases present with
          | false => cases hhere
          | true =>
            rw [List.mem_singleton.1 hhere]
            exact .here ((d.isDirectory_eq_true_iff path).1 hdir)
        · exact .above habove
      · intro h
        cases h with
        | here hleads =>
          rw [(d.isDirectory_eq_true_iff path).2 hleads] at hdir
          cases hdir
          exact .inl List.mem_cons_self
        | above habove => exact .inr habove

theorem isDirectory_of_finds {found : Option Path} (h : Finds d path marker (.ok found)) :
    ∃ present, d.isDirectory path = .ok present ∧ (present = true ↔ d.Leads path .directory) := by
  have hrefused : ¬ Disk.IsRefused path := by
    cases h with
    | found h | nowhere h => exact h
  cases hdir : d.isDirectory path with
  | error fault => exact absurd ((Disk.isA_eq_error_iff ht hpath fault).1 hdir).1 hrefused
  | ok present => exact ⟨present, rfl, by rw [← d.isDirectory_eq_true_iff, hdir, Except.ok.injEq]⟩

include hhere

/-- A search comes to what the nearest directory that ends it says. -/
theorem findRoot_eq_iff {marker : String} (hmarker : (Path.ofText marker).HasShortParts)
    (out : Except FileFault (Option Path)) :
    findRoot d path marker = out ↔ Finds d path (Path.ofText marker) out := by
  by_cases hrefused : Disk.IsRefused path
  · have hout : findRoot d path marker = .error ⟨.nameTooLong, path.text⟩ := by
      rw [findRoot, Disk.isDirectory, (Disk.isA_eq_error_iff ht hpath _).2 ⟨hrefused, rfl⟩]
      rfl
    rw [hout]
    constructor
    · rintro rfl
      exact .refused hrefused
    · intro h
      cases h with
      | refused => rfl
      | found h | refusedAt h | nowhere h => exact absurd hrefused h
  obtain ⟨dirs, hsearch, horder, hdirs⟩ := exists_findRoot_eq ht hpath hrefused
  have hends (dir : Path) (hdir : Searched d path dir) :
      Ends d (Path.ofText marker) dir ↔ d.exists? (dir.join (Path.ofText marker)) ≠ .ok false :=
    ends_iff ht hhere ((hdir.hasShortParts hpath).join hmarker)
  have hnearest (dir : Path) : Nearest (Ends d (Path.ofText marker)) d path dir ↔
      IsFirst (fun dir => d.exists? (dir.join (Path.ofText marker)) ≠ .ok false) dirs dir := by
    rw [isFirst_iff_of_pairwise horder]
    simp only [hdirs]
    constructor
    · intro h
      exact ⟨h.searched, (hends dir h.searched).1 h.holds, fun near hnear hbelow hp =>
        h.least near hnear hbelow ((hends near hnear).2 hp)⟩
    · intro h
      obtain ⟨hdir, hp, hleast⟩ := h
      exact ⟨hdir, (hends dir hdir).2 hp, fun near hnear hbelow hp =>
        hleast near hnear hbelow ((hends near hnear).1 hp)⟩
  rw [hsearch]
  constructor
  · rintro rfl
    rcases exists_isFirst_or_forall
        (fun dir => d.exists? (dir.join (Path.ofText marker)) ≠ .ok false) dirs with
      ⟨dir, hfirst⟩ | hnone
    · have hdir := (hnearest dir).2 hfirst
      rw [firstWith_of_isFirst hfirst]
      rcases hdir.holds with hexists | hends
      · rw [(Disk.exists?_eq_true_iff hhere _).2 hexists]
        exact .found hrefused hdir hexists
      · rw [Disk.exists?, Disk.isA_of_isTooLong d _ hends.1 hends.2]
        exact .refusedAt hrefused hdir hends
    · rw [firstWith_of_forall fun dir hdir => not_not.1 (hnone dir hdir)]
      exact .nowhere hrefused fun dir hdir hp =>
        hnone dir ((hdirs dir).2 hdir) ((hends dir hdir).1 hp)
  · intro h
    cases h with
    | refused h => exact absurd h hrefused
    | found _ hdir hexists =>
      rw [firstWith_of_isFirst ((hnearest _).1 hdir), (Disk.exists?_eq_true_iff hhere _).2 hexists]
      rfl
    | refusedAt _ hdir hends =>
      rw [firstWith_of_isFirst ((hnearest _).1 hdir), Disk.exists?,
        Disk.isA_of_isTooLong d _ hends.1 hends.2]
      rfl
    | nowhere _ hnone =>
      refine firstWith_of_forall fun dir hdir => ?_
      by_contra hp
      exact hnone dir ((hdirs dir).1 hdir) ((hends dir ((hdirs dir).1 hdir)).2 hp)

theorem discoverRoot_eq_iff (out : Except FileFault Path) :
    discoverRoot d path = out ↔ Discovers d path out := by
  have hfile := findRoot_eq_iff ht hhere hpath
    (show (Path.ofText fileName).HasShortParts by decide)
  have hmark := findRoot_eq_iff ht hhere hpath
    (show (Path.ofText repositoryMark).HasShortParts by decide)
  constructor
  · rintro rfl
    rw [discoverRoot]
    cases hfound : findRoot d path fileName with
    | error fault => exact .refused ((hfile _).1 hfound)
    | ok found =>
      cases found with
      | some root => exact .configured ((hfile _).1 hfound)
      | none =>
        cases hkept : findRoot d path repositoryMark with
        | error fault => exact .refusedLater ((hfile _).1 hfound) ((hmark _).1 hkept)
        | ok found =>
          cases found with
          | some root => exact .repository ((hfile _).1 hfound) ((hmark _).1 hkept)
          | none =>
            obtain ⟨present, hdir, hleads⟩ :=
              isDirectory_of_finds ht hpath ((hfile _).1 hfound)
            simp only [hdir, bind, Except.bind]
            cases present with
            | true => exact .here ((hfile _).1 hfound) ((hmark _).1 hkept) (hleads.1 rfl)
            | false =>
              refine .above ((hfile _).1 hfound) ((hmark _).1 hkept) fun hdirectory => ?_
              cases hleads.2 hdirectory
  · intro h
    cases h with
    | configured hfound =>
      rw [discoverRoot, (hfile _).2 hfound]
      rfl
    | repository hnone hfound =>
      rw [discoverRoot, (hfile _).2 hnone, (hmark _).2 hfound]
      rfl
    | refused hfault =>
      rw [discoverRoot, (hfile _).2 hfault]
      rfl
    | refusedLater hnone hfault =>
      rw [discoverRoot, (hfile _).2 hnone, (hmark _).2 hfault]
      rfl
    | here hnone hnoMark hdirectory =>
      rw [discoverRoot, (hfile _).2 hnone, (hmark _).2 hnoMark,
        (d.isDirectory_eq_true_iff path).2 hdirectory]
      rfl
    | above hnone hnoMark hdirectory =>
      obtain ⟨present, hdir, hleads⟩ := isDirectory_of_finds ht hpath hnone
      obtain rfl : present = false := Bool.eq_false_iff.2 fun hpresent =>
        hdirectory (hleads.1 hpresent)
      rw [discoverRoot, (hfile _).2 hnone, (hmark _).2 hnoMark, hdir]
      rfl

end Search

theorem Finds.searched (h : Finds d path marker (.ok (some dir))) : Searched d path dir := by
  cases h with
  | found _ hnearest => exact hnearest.searched

theorem Discovers.eq_or_isBelow (h : Discovers d path (.ok root)) :
    root = path ∨ path.IsBelow root := by
  have hsearched (hroot : Searched d path root) : root = path ∨ path.IsBelow root := by
    cases hroot with
    | here => exact .inl rfl
    | above hbelow => exact .inr hbelow
  cases h with
  | configured hfound => exact hsearched hfound.searched
  | repository _ hfound => exact hsearched hfound.searched
  | here => exact .inl rfl
  | above =>
    by_cases hparts : path.parts = []
    · refine .inl ?_
      obtain ⟨anchor, parts⟩ := path
      cases hparts
      rfl
    · exact .inr (Path.isBelow_parent hparts)

theorem Discovers.isBelow (hhere : d.tree.get? d.here = some .directory)
    (h : Discovers d path (.ok root)) (hdir : ¬ d.Leads path .directory) : path.IsBelow root := by
  have hsearched (hroot : Searched d path root) : path.IsBelow root := by
    cases hroot with
    | here hleads => exact absurd hleads hdir
    | above hbelow => exact hbelow
  cases h with
  | configured hfound => exact hsearched hfound.searched
  | repository _ hfound => exact hsearched hfound.searched
  | here _ _ hleads => exact absurd hleads hdir
  | above => exact Path.isBelow_parent fun hparts => hdir (Disk.leads_of_no_parts hhere hparts)

end Config

namespace Session

/-- A search for a marker ends at the nearest directory with it, or where a path is not taken. The
root is found by the configuration file, then by the repository, then by the path alone; it is the
path or lies above it. A path that is no directory lies below the root that it gives a session,
unless the file there says where the root is. -/
theorem nearest_root_of_resolve (s : Session) (path : Path) (ht : s.disk.tree.HasShortNames)
    (hhere : s.disk.tree.get? s.disk.here = some .directory) (hpath : path.HasShortParts) :
    (∀ marker : String, (Path.ofText marker).HasShortParts → ∀ out,
      Config.findRoot s.disk path marker = out ↔
        Config.Finds s.disk path (Path.ofText marker) out) ∧
    (∀ out, Config.discoverRoot s.disk path = out ↔ Config.Discovers s.disk path out) ∧
    (∀ root, Config.discoverRoot s.disk path = .ok root → root = path ∨ path.IsBelow root) ∧
    ∀ config, s.config = none → (s.resolve path).1.config = some config →
      ¬ s.disk.Leads path .directory →
      ∀ dir entries, Config.discoverRoot s.disk path = .ok dir → Config.Holds s.disk dir entries →
        entries.lookup (.str "root") = none → path.IsBelow config.root := by
  have hdiscovers := Config.discoverRoot_eq_iff ht hhere hpath
  refine ⟨fun marker hmarker => Config.findRoot_eq_iff ht hhere hpath hmarker, hdiscovers,
    fun root hroot => ((hdiscovers _).1 hroot).eq_or_isBelow, ?_⟩
  intro config hnone hconfig hdir dir entries hroot hholds hkey
  obtain ⟨disk, registry, _⟩ := s
  cases hnone
  have hload : (loadFor ⟨disk, registry, none⟩ path).result = .ok config := by
    cases hresult : (loadFor ⟨disk, registry, none⟩ path).result with
    | error failure => simp [resolve, hresult, Except.toOption] at hconfig
    | ok loaded => simpa [resolve, hresult, Except.toOption] using hconfig
  obtain ⟨found, hfound, hload⟩ := (loadFor_eq_ok_iff _ path config).1 hload
  obtain rfl : dir = found := Except.ok.inj (hroot.symm.trans hfound)
  rw [hholds.load_eq] at hload
  obtain ⟨hplace, -⟩ := Config.ofEntries_eq_ok_iff.1 hload
  have hsame {root : Path} (hplaces : Config.Places dir entries root) : root = dir := by
    cases hplaces with
    | here => rfl
    | there htext =>
      rw [hkey] at htext
      cases htext
  rw [hsame (Config.places_of_rootOf hplace)]
  exact ((hdiscovers _).1 hfound).isBelow hhere hdir

def smallFile : Path := ⟨.root, ["p", "a.liquid"]⟩

theorem not_leads_smallFile : ¬ smallDisk.Leads smallFile .directory := by
  have hisA := isA_project_file isPlain_smallDisk 0 List.mem_cons_self (p := smallFile) rfl
    (by decide) Node.isDirectory
  rw [← Disk.isDirectory_eq_true_iff, smallDisk, Disk.isDirectory, hisA]
  intro h
  cases h

theorem finds_smallFile :
    Config.Finds smallDisk smallFile (Path.ofText Config.fileName) (.ok (some smallRoot)) := by
  have hlist : smallDisk.tree.get? ["p", Config.fileName] = some .directory :=
    Disk.get?_ofDirectory_of_mem isPlain_smallDisk List.mem_cons_self
  have hmarker : smallDisk.Leads (smallRoot.join (Path.ofText Config.fileName)) .directory := by
    refine ⟨by decide, ["p", Config.fileName], ?_, hlist, rfl⟩
    exact Disk.locate_ofDirectory isPlain_smallDisk 0 (by decide) (by decide) hlist rfl
  refine .found (by unfold Disk.IsRefused; decide) ?_ ⟨.directory, hmarker⟩
  refine ⟨.above ⟨["a.liquid"], by decide, rfl⟩, .inl ⟨.directory, hmarker⟩, ?_⟩
  intro near hnear hbelow _
  cases hnear with
  | here hleads => exact not_leads_smallFile hleads
  | above habove =>
    have hlow := hbelow.length_lt
    have hhigh := habove.length_lt
    simp only [smallRoot, smallFile, List.length_cons, List.length_nil] at hlow hhigh
    omega

theorem nearest_root_of_small_file :
    smallDisk.tree.HasShortNames ∧ smallDisk.tree.get? smallDisk.here = some .directory ∧
    smallFile.HasShortParts ∧ (Path.ofText Config.fileName).HasShortParts ∧
    Config.findRoot smallDisk smallFile Config.fileName = .ok (some smallRoot) ∧
    Config.discoverRoot smallDisk smallFile = .ok smallRoot ∧
    (smallRoot = smallFile ∨ smallFile.IsBelow smallRoot) ∧
    ∃ config, ((start smallDisk (Registry.ofClasses [])).resolve smallFile).1.config = some config ∧
      smallFile.IsBelow config.root := by
  have ht := Disk.hasShortNames_ofDirectory isPlain_smallDisk
  have hhere : smallDisk.tree.get? smallDisk.here = some .directory := rfl
  have hpath : smallFile.HasShortParts := by decide
  have hmarker : (Path.ofText Config.fileName).HasShortParts := by decide
  obtain ⟨hfinds, hdiscovers, habove, hbelow⟩ := nearest_root_of_resolve
    (start smallDisk (Registry.ofClasses [])) smallFile ht hhere hpath
  have hfound := (hfinds Config.fileName hmarker _).2 finds_smallFile
  have hroot := (hdiscovers _).2 (.configured finds_smallFile)
  have hmark : smallDisk.isFile (smallRoot.child Config.fileName) = .ok false :=
    Disk.isA_ofDirectory isPlain_smallDisk 0 rfl usable_smallMarker
      (Disk.get?_ofDirectory_of_mem isPlain_smallDisk List.mem_cons_self) rfl Node.isFile
  have hload := (loadFor_eq_ok_iff (start smallDisk (Registry.ofClasses [])) smallFile
    ⟨smallRoot, [], [], none⟩).2 ⟨smallRoot, hroot, Config.load_of_no_file hmark⟩
  have hconfig : ((start smallDisk (Registry.ofClasses [])).resolve smallFile).1.config =
      some ⟨smallRoot, [], [], none⟩ := by
    change (loadFor _ _).result.toOption = _
    rw [hload]
    rfl
  exact ⟨ht, hhere, hpath, hmarker, hfound, hroot, habove _ hroot, _, hconfig,
    hbelow _ rfl hconfig not_leads_smallFile _ _ hroot (.noFile hmark) rfl⟩

/-- A search gives the nearest directory with the marker, and nothing just where there is none. -/
def GivesNearest (d : Disk) (path : Path) (marker : String) : Prop :=
  (∀ dir, Config.findRoot d path marker = .ok (some dir) ↔
    Config.Nearest (fun dir => d.Exists (dir.join (Path.ofText marker))) d path dir) ∧
  (Config.findRoot d path marker = .ok none ↔
    ∀ dir, Config.Searched d path dir → ¬ d.Exists (dir.join (Path.ofText marker)))

theorem not_givesNearest :
    ¬ ∀ (d : Disk) (path : Path) (marker : String), d.tree.HasShortNames →
      d.tree.get? d.here = some .directory → path.HasShortParts →
      (Path.ofText marker).HasShortParts → GivesNearest d path marker := by
  intro h
  obtain ⟨⟨hnameable, hshort⟩, ⟨-, -, -, hlong⟩, -⟩ := longRoot_paths
  have ht : emptyDisk.tree.HasShortNames := ⟨nofun, nofun⟩
  have hpath : (longRoot.child longFile).HasShortParts := by
    intro part hpart
    rcases List.mem_append.1 hpart with hpart | hpart
    · exact hshort part hpart
    · rw [List.mem_singleton.1 hpart]
      decide +kernel
  have hrefused : Disk.IsRefused (longRoot.child longFile) := by
    refine ⟨?_, hlong⟩
    simp only [Path.child, List.all_append, hnameable]
    decide +kernel
  have hmarker : (Path.ofText Config.fileName).HasShortParts := by decide
  have hout := (Config.findRoot_eq_iff ht rfl hpath hmarker _).2 (.refused hrefused)
  obtain ⟨hsome, hnone⟩ :=
    h emptyDisk (longRoot.child longFile) Config.fileName ht rfl hpath hmarker
  simp only [hout, reduceCtorEq, false_iff] at hsome hnone
  -- Where no search gives anything, the nearest directory with the marker is still the nearest.
  have hsearched (dir : Path) : Config.Searched emptyDisk (longRoot.child longFile) dir ↔
      dir ∈ (longRoot.child longFile).parents := by
    rw [Path.mem_parents_iff]
    constructor
    · intro hdir
      cases hdir with
      | here hleads => exact absurd hrefused hleads.not_isRefused
      | above hbelow => exact hbelow
    · exact .above
  rcases exists_isFirst_or_forall
      (fun dir => emptyDisk.Exists (dir.join (Path.ofText Config.fileName)))
      (longRoot.child longFile).parents with ⟨dir, hfirst⟩ | hnowhere
  · obtain ⟨hdir, hexists, hleast⟩ :=
      (Config.isFirst_iff_of_pairwise (longRoot.child longFile).pairwise_parents dir).1 hfirst
    exact hsome dir ⟨(hsearched dir).2 hdir, hexists, fun near hnear =>
      hleast near ((hsearched near).1 hnear)⟩
  · exact hnone fun dir hdir => hnowhere dir ((hsearched dir).1 hdir)

end Session

end ThemeLint
