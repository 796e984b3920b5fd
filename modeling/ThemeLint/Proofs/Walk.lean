import Mathlib.Data.List.Induction
import ThemeLint.Disk
import ThemeLint.Proofs.Traversal

/-!
Where walks lead. A walk over one list of names and then another is a walk over the second from
where the first led, and among real directories it leads where the names say. A walk complains of a
name that is too long only where there is one, in the names, in the tree or in the target of a link.
-/

set_option autoImplicit false

namespace ThemeLint

theorem Node.isLink_eq_false {node : Node} (h : ∀ goal, node = .link goal → False) :
    node.isLink = false := by
  cases node with
  | link goal => exact (h goal rfl).elim
  | _ => rfl

namespace FileTree

/-- All names in a tree and in the targets of its links are ones that can be looked up. -/
structure HasShortNames (t : FileTree) : Prop where
  names : ∀ e ∈ t.entries, ∀ name ∈ e.1, nameSize name ≤ nameLimit
  targets : ∀ loc target, (loc, Node.link target) ∈ t.entries →
    ∀ name ∈ targetNames target, nameSize name ≤ nameLimit

theorem get?_init (t : FileTree) {loc : Location} {names : List WideText} {name : WideText}
    {node : Node} (h : t.get? (loc ++ (names ++ [name])) = some node) :
    t.get? (loc ++ names) = some .directory := by
  rw [← List.append_assoc] at h
  exact t.get?_parent h

theorem get?_of_append (t : FileTree) {loc : Location} {names : List WideText} {node : Node}
    (hn : names ≠ []) (h : t.get? (loc ++ names) = some node) : t.get? loc = some .directory := by
  induction names using List.reverseRecOn generalizing node with
  | nil => exact absurd rfl hn
  | append_singleton names name ih =>
    have hparent := t.get?_init h
    by_cases he : names = []
    · rw [he, List.append_nil] at hparent
      exact hparent
    · exact ih he hparent

theorem mem_children_iff_get? (t : FileTree) (loc : Location) (names : List WideText)
    (name : WideText) (node : Node) :
    (name, node) ∈ t.children (loc ++ names) ↔ t.get? (loc ++ (names ++ [name])) = some node := by
  rw [t.mem_children_iff, t.get?_eq_some_iff (by simp), List.append_assoc]

theorem isName_iff (name : WideText) :
    isName name = true ↔ name.isEmpty = false ∧ name ≠ Path.here ∧ name ≠ Path.up ∧
      CodePoint.char '/' ∉ name.points := by
  simp [isName, Path.isIdle, and_assoc]

theorem HasShortNames.of_get? {t : FileTree} (ht : t.HasShortNames) {loc : Location} {node : Node}
    (h : t.get? loc = some node) : ∀ name ∈ loc, nameSize name ≤ nameLimit := by
  by_cases hl : loc = []
  · simp [hl]
  · exact ht.names _ ((t.get?_eq_some_iff hl node).1 h)

theorem walk_cons_entry (t : FileTree) (links : Nat) {loc : Location} {name : WideText} {node : Node}
    (hdir : t.get? loc = some .directory) (hhere : name ≠ Path.here) (hup : name ≠ Path.up)
    (hsize : nameSize name ≤ nameLimit) (hget : t.get? (loc ++ [name]) = some node)
    (hplain : node.isLink = false) (names : List WideText) :
    t.walk links loc (name :: names) = t.walk links (loc ++ [name]) names := by
  rw [walk, if_neg (not_not.2 hdir), if_neg hhere, if_neg hup, if_neg (Nat.not_lt.2 hsize)]
  simp only [hget]
  cases node with
  | link target => cases hplain
  | _ => rfl

theorem walk_of_get? (t : FileTree) (ht : t.HasShortNames) (links : Nat) {loc : Location}
    {names : List WideText} {node : Node} (hget : t.get? (loc ++ names) = some node)
    (hplain : node.isLink = false) : t.walk links loc names = .ok (loc ++ names) := by
  induction names generalizing loc with
  | nil => rw [walk, List.append_nil]
  | cons name names ih =>
    have hname : isName name = true := t.isName_of_get? hget name (by simp)
    obtain ⟨-, hhere, hup, -⟩ := (isName_iff name).1 hname
    have hsize : nameSize name ≤ nameLimit := ht.of_get? hget name (by simp)
    have hloc : t.get? loc = some .directory := t.get?_of_append (by simp) hget
    rw [List.append_cons] at hget ⊢
    have hnext : ∃ next, t.get? (loc ++ [name]) = some next ∧ next.isLink = false := by
      by_cases hn : names = []
      · rw [hn, List.append_nil] at hget
        exact ⟨node, hget, hplain⟩
      · exact ⟨.directory, t.get?_of_append hn hget, rfl⟩
    obtain ⟨next, hnext, hnextPlain⟩ := hnext
    rw [t.walk_cons_entry links hloc hhere hup hsize hnext hnextPlain]
    exact ih hget

theorem walk_back_and_forth (t : FileTree) (links : Nat) {loc : Location} {name : WideText}
    (h : t.get? (loc ++ [name]) = some .directory) (hsize : nameSize name ≤ nameLimit) (n : Nat)
    (names : List WideText) :
    t.walk links loc ((List.replicate n [name, Path.up]).flatten ++ names) =
      t.walk links loc names := by
  have hname := t.isName_of_get? h name (by simp)
  obtain ⟨-, hhere, hup, -⟩ := (isName_iff name).1 hname
  have hloc := t.get?_parent h
  induction n with
  | zero => rfl
  | succ n ih =>
    have hback (more : List WideText) :
        t.walk links (loc ++ [name]) (Path.up :: more) = t.walk links loc more := by
      have hdiffer : Path.up ≠ Path.here := by decide
      rw [walk, if_neg (not_not.2 h), if_neg hdiffer, if_pos rfl, List.dropLast_concat]
    rw [List.replicate_succ, List.flatten_cons, List.append_assoc, List.cons_append,
      List.cons_append, List.nil_append, t.walk_cons_entry links hloc hhere hup hsize h rfl, hback]
    exact ih

theorem walk_ne_nameTooLong (t : FileTree) (ht : t.HasShortNames) (links : Nat) (loc : Location)
    (names : List WideText) (hnames : ∀ name ∈ names, nameSize name ≤ nameLimit) :
    t.walk links loc names ≠ .error .nameTooLong := by
  induction links, loc, names using FileTree.walk.induct t with
  | case1 links loc => simp [walk]
  | case2 links loc name names hdir => simp [walk, hdir]
  | case3 links loc names hdir ih =>
    rw [walk, if_neg hdir, if_pos rfl]
    exact ih fun name hn => hnames name (List.mem_cons_of_mem _ hn)
  | case4 links loc names hdir hh ih =>
    rw [walk, if_neg hdir, if_neg hh, if_pos rfl]
    exact ih fun name hn => hnames name (List.mem_cons_of_mem _ hn)
  | case5 links loc name names hdir hh hu hs =>
    have := hnames name (by simp)
    omega
  | case6 links loc name names hdir hh hu hs hget =>
    rw [walk, if_neg hdir, if_neg hh, if_neg hu, if_neg hs]
    simp [hget]
  | case7 loc name names hdir hh hu hs goal hget =>
    rw [walk, if_neg hdir, if_neg hh, if_neg hu, if_neg hs]
    simp [hget]
  | case8 loc name names hdir hh hu hs goal hget k base ih =>
    rw [walk, if_neg hdir, if_neg hh, if_neg hu, if_neg hs]
    simp only [hget]
    -- What is walked next are the names of the target, then the rest.
    refine ih fun n hn => ?_
    rcases List.mem_append.1 hn with hn | hn
    · exact ht.targets _ goal ((t.get?_eq_some_iff (by simp) _).1 hget) n hn
    · exact hnames n (List.mem_cons_of_mem _ hn)
  | case9 links loc name names hdir hh hu hs node hlink hget ih =>
    have hplain := Node.isLink_eq_false hlink
    rw [t.walk_cons_entry links (not_not.1 hdir) hh hu (Nat.not_lt.1 hs) hget hplain]
    exact ih fun name hn => hnames name (List.mem_cons_of_mem _ hn)

theorem get?_of_walk_singleton (t : FileTree) {links : Nat} {loc target : Location} {name : WideText}
    (hhere : name ≠ Path.here) (hup : name ≠ Path.up)
    (h : t.walk links loc [name] = .ok target) : ∃ node, t.get? (loc ++ [name]) = some node := by
  cases hget : t.get? (loc ++ [name]) with
  | some node => exact ⟨node, rfl⟩
  | none =>
    rw [walk] at h
    simp only [hhere, hup, hget, if_false] at h
    split_ifs at h

/-- Walking on from where a walk led is one walk, on the links that are left to it. -/
theorem walk_append (t : FileTree) (links : Nat) (loc : Location) (names : List WideText)
    (target : Location) (h : t.walk links loc names = .ok target) :
    ∃ left, ∀ more, t.walk links loc (names ++ more) = t.walk left target more := by
  induction links, loc, names using FileTree.walk.induct t with
  | case1 links loc =>
    rw [walk] at h
    exact ⟨links, fun more => by rw [List.nil_append, Except.ok.inj h]⟩
  | case2 links loc name names hdir =>
    rw [walk, if_pos hdir] at h
    cases h
  | case3 links loc names hdir ih =>
    rw [walk, if_neg hdir, if_pos rfl] at h
    obtain ⟨left, hl⟩ := ih h
    refine ⟨left, fun more => ?_⟩
    rw [List.cons_append, walk, if_neg hdir, if_pos rfl]
    exact hl more
  | case4 links loc names hdir hh ih =>
    rw [walk, if_neg hdir, if_neg hh, if_pos rfl] at h
    obtain ⟨left, hl⟩ := ih h
    refine ⟨left, fun more => ?_⟩
    rw [List.cons_append, walk, if_neg hdir, if_neg hh, if_pos rfl]
    exact hl more
  | case5 links loc name names hdir hh hu hs =>
    rw [walk, if_neg hdir, if_neg hh, if_neg hu, if_pos hs] at h
    cases h
  | case6 links loc name names hdir hh hu hs hget =>
    rw [walk, if_neg hdir, if_neg hh, if_neg hu, if_neg hs] at h
    simp only [hget] at h
    cases h
  | case7 loc name names hdir hh hu hs goal hget =>
    rw [walk, if_neg hdir, if_neg hh, if_neg hu, if_neg hs] at h
    simp only [hget] at h
    cases h
  | case8 loc name names hdir hh hu hs goal hget k base ih =>
    rw [walk, if_neg hdir, if_neg hh, if_neg hu, if_neg hs] at h
    simp only [hget] at h
    obtain ⟨left, hl⟩ := ih h
    refine ⟨left, fun more => ?_⟩
    rw [List.cons_append, walk, if_neg hdir, if_neg hh, if_neg hu, if_neg hs]
    simp only [hget]
    rw [← List.append_assoc]
    exact hl more
  | case9 links loc name names hdir hh hu hs node hlink hget ih =>
    have hplain := Node.isLink_eq_false hlink
    have hstep := t.walk_cons_entry links (not_not.1 hdir) hh hu (Nat.not_lt.1 hs) hget hplain
    rw [hstep] at h
    obtain ⟨left, hl⟩ := ih h
    refine ⟨left, fun more => ?_⟩
    rw [List.cons_append, hstep]
    exact hl more

end FileTree

namespace Path

def HasShortParts (p : Path) : Prop := ∀ part ∈ p.parts, nameSize part ≤ nameLimit

def descend (p : Path) (names : List WideText) : Path := ⟨p.anchor, p.parts ++ names⟩

@[simp] theorem descend_nil (p : Path) : p.descend [] = p := by simp [descend]

theorem parent_descend (p : Path) (names : List WideText) (name : WideText) :
    (p.descend (names ++ [name])).parent = p.descend names := by
  simp [parent, descend, ← List.append_assoc]

theorem child_descend (p : Path) (names : List WideText) (name : WideText) :
    (p.descend names).child name = p.descend (names ++ [name]) := by
  simp [child, descend]

theorem HasShortParts.descend {p : Path} (hp : p.HasShortParts) {names : List WideText}
    (hnames : ∀ name ∈ names, nameSize name ≤ nameLimit) : (p.descend names).HasShortParts := by
  intro part hpart
  rcases List.mem_append.1 hpart with hpart | hpart
  · exact hp part hpart
  · exact hnames part hpart

end Path

namespace Disk

/-- What stands at a path, a link at its end not followed. -/
def standsAt (d : Disk) (p : Path) : Option Node :=
  if isTooLong p then none
  else match p.parts.getLast?, d.locate p.parent with
    | none, _ => (d.nodeAt p).toOption
    | some _, .error _ => none
    | some name, .ok loc =>
      if d.tree.get? loc ≠ some .directory then none
      else if name = Path.here ∨ name = Path.up then some .directory
      else d.tree.get? (loc ++ [name])

theorem isTooLong_of_standsAt {d : Disk} {p : Path} {node : Node} (h : d.standsAt p = some node) :
    isTooLong p = false := by
  unfold standsAt at h
  split_ifs at h with hlen
  simpa using hlen

structure Fits (d : Disk) (root : Path) : Prop where
  root_short : isTooLong root = false
  below_short : ∀ loc, d.locate root = .ok loc → ∀ names node, (loc ++ names, node) ∈ d.tree.entries →
    isTooLong (root.descend names) = false

theorem locate_eq (d : Disk) {p : Path} (hlen : isTooLong p = false) :
    d.locate p = d.tree.walk linkLimit (if p.isAbsolute then [] else d.here) p.parts := by
  simp [locate, hlen]

theorem isTooLong_of_locate {d : Disk} {p : Path} {loc : Location} (h : d.locate p = .ok loc) :
    isTooLong p = false := by
  unfold locate at h
  split_ifs at h with hlen
  all_goals simpa using hlen

theorem locate_descend (d : Disk) {root : Path} {loc : Location} (h : d.locate root = .ok loc) :
    ∃ left, ∀ names, isTooLong (root.descend names) = false →
      d.locate (root.descend names) = d.tree.walk left loc names := by
  rw [d.locate_eq (isTooLong_of_locate h)] at h
  obtain ⟨left, hl⟩ := d.tree.walk_append _ _ _ _ h
  refine ⟨left, fun names hn => ?_⟩
  rw [d.locate_eq hn]
  exact hl names

theorem Fits.isTooLong_of_get? {d : Disk} {root : Path} (hd : d.Fits root) {loc : Location}
    (hroot : d.locate root = .ok loc) {names : List WideText} {node : Node}
    (h : d.tree.get? (loc ++ names) = some node) : isTooLong (root.descend names) = false := by
  by_cases hn : names = []
  · rw [hn, Path.descend_nil]
    exact hd.root_short
  · exact hd.below_short loc hroot names node ((d.tree.get?_eq_some_iff (by simp [hn]) node).1 h)

section Below

variable {d : Disk} {root : Path} {loc : Location} (ht : d.tree.HasShortNames)
  (hroot : d.locate root = .ok loc)

include ht hroot

theorem locate_of_get? {names : List WideText} {node : Node}
    (h : d.tree.get? (loc ++ names) = some node) (hplain : node.isLink = false)
    (hlen : isTooLong (root.descend names) = false) :
    d.locate (root.descend names) = .ok (loc ++ names) := by
  obtain ⟨left, hl⟩ := d.locate_descend hroot
  rw [hl names hlen]
  exact d.tree.walk_of_get? ht left h hplain

variable (hdirs : ∀ names, d.tree.get? (loc ++ names) = some .directory →
  isTooLong (root.descend names) = false)

include hdirs

theorem standsAt_descend {names : List WideText} {name : WideText}
    (h : d.tree.get? (loc ++ names) = some .directory) (hhere : name ≠ Path.here)
    (hup : name ≠ Path.up) (hlen : isTooLong (root.descend (names ++ [name])) = false) :
    d.standsAt (root.descend (names ++ [name])) = d.tree.get? (loc ++ (names ++ [name])) := by
  have hlast : (root.descend (names ++ [name])).parts.getLast? = some name := by
    simp [Path.descend, ← List.append_assoc]
  unfold standsAt
  rw [hlast]
  simp only [Path.parent_descend, locate_of_get? ht hroot h rfl (hdirs names h)]
  simp [hlen, h, hhere, hup]

/-- Below a root the real directories are those that are reached through real directories. -/
theorem get?_eq_directory_iff (hdir : d.tree.get? loc = some .directory) (names : List WideText)
    (hnames : ∀ name ∈ names, name ≠ Path.here ∧ name ≠ Path.up) :
    d.tree.get? (loc ++ names) = some .directory ↔
      ∀ front, front ≠ [] → front <+: names → d.standsAt (root.descend front) = some .directory := by
  induction names using List.reverseRecOn with
  | nil =>
    rw [List.append_nil]
    exact iff_of_true hdir fun front hfront hpre => absurd (List.prefix_nil.1 hpre) hfront
  | append_singleton names name ih =>
    obtain ⟨hhere, hup⟩ := hnames name (by simp)
    have ih := ih fun n hn => hnames n (List.mem_append_left _ hn)
    constructor
    · intro h front hfront hpre
      have hparent := d.tree.get?_init h
      rcases List.prefix_concat_iff.1 hpre with rfl | hpre
      · rw [standsAt_descend ht hroot hdirs hparent hhere hup (hdirs _ h)]
        exact h
      · exact ih.1 hparent front hfront hpre
    · intro h
      have hparent := ih.2 fun front hfront hpre =>
        h front hfront (hpre.trans (List.prefix_append names [name]))
      have hlast := h (names ++ [name]) (by simp) List.prefix_rfl
      rw [standsAt_descend ht hroot hdirs hparent hhere hup (isTooLong_of_standsAt hlast)] at hlast
      exact hlast

end Below

theorem nodeAt_eq_ok_iff (d : Disk) (p : Path) (node : Node) :
    d.nodeAt p = .ok node ↔ ∃ loc, d.locate p = .ok loc ∧ d.tree.get? loc = some node := by
  unfold nodeAt
  cases d.locate p with
  | error fault => simp
  | ok loc => cases h : d.tree.get? loc <;> simp [h]

theorem isA_of_locate (d : Disk) (kind : Node → Bool) {p : Path} {loc : Location} {node : Node}
    (hnameable : p.parts.all (·.points.all isNameable) = true) (hloc : d.locate p = .ok loc)
    (hget : d.tree.get? loc = some node) : d.isA kind p = .ok (kind node) := by
  have hnode := (nodeAt_eq_ok_iff d p node).2 ⟨loc, hloc, hget⟩
  simp [isA, hnameable, hnode]

theorem isA_of_isTooLong (d : Disk) (kind : Node → Bool) {p : Path}
    (hnameable : p.parts.all (·.points.all isNameable) = true) (hlen : isTooLong p = true) :
    d.isA kind p = .error ⟨.nameTooLong, p.text⟩ := by
  simp [isA, nodeAt, locate, hnameable, hlen]

theorem isA_eq_true_iff (d : Disk) (kind : Node → Bool) (p : Path) :
    d.isA kind p = .ok true ↔
      p.parts.all (·.points.all isNameable) = true ∧ ∃ node, d.nodeAt p = .ok node ∧ kind node := by
  unfold isA
  cases hp : p.parts.all (·.points.all isNameable) with
  | false => simp
  | true =>
    cases hn : d.nodeAt p with
    | ok node => simp
    | error fault => cases fault <;> simp

theorem failsAs_isA (d : Disk) (kind : Node → Bool) (p : Path) :
    FailsAs (· = ⟨.nameTooLong, p.text⟩) (d.isA kind p) := by
  unfold isA
  split
  · exact failsAs_ok _
  · split
    · exact failsAs_ok _
    · exact failsAs_error rfl
    · exact failsAs_ok _

theorem get?_of_isA {d : Disk} (ht : d.tree.HasShortNames) {root : Path}
    {loc : Location} (hroot : d.locate root = .ok loc) {names : List WideText} {name : WideText}
    (hdir : d.tree.get? (loc ++ names) = some .directory) (hhere : name ≠ Path.here)
    (hup : name ≠ Path.up) {kind : Node → Bool}
    (h : d.isA kind (root.descend (names ++ [name])) = .ok true) :
    ∃ node, d.tree.get? (loc ++ (names ++ [name])) = some node := by
  obtain ⟨-, node, hnode, -⟩ := (isA_eq_true_iff d kind _).1 h
  obtain ⟨target, htarget, -⟩ := (nodeAt_eq_ok_iff d _ node).1 hnode
  obtain ⟨left, hl⟩ := d.locate_descend hroot
  rw [hl _ (isTooLong_of_locate htarget)] at htarget
  obtain ⟨left', hl'⟩ := d.tree.walk_append _ _ _ _ (d.tree.walk_of_get? ht left hdir rfl)
  rw [hl'] at htarget
  rw [← List.append_assoc]
  exact d.tree.get?_of_walk_singleton hhere hup htarget

theorem nodeAt_ne_nameTooLong {d : Disk} (ht : d.tree.HasShortNames) {p : Path}
    (hp : p.HasShortParts) (hlen : isTooLong p = false) : d.nodeAt p ≠ .error .nameTooLong := by
  have hwalk := d.tree.walk_ne_nameTooLong ht linkLimit (if p.isAbsolute then [] else d.here) p.parts hp
  unfold nodeAt locate
  rw [hlen]
  simp only [Bool.false_eq_true, if_false]
  split
  next fault h =>
    rw [h] at hwalk
    simpa using hwalk
  next loc h => split <;> simp

theorem exists_isA_eq {d : Disk} (ht : d.tree.HasShortNames) (kind : Node → Bool) {p : Path}
    (hp : p.HasShortParts)
    (hlen : p.parts.all (·.points.all isNameable) = true → isTooLong p = false) :
    ∃ b, d.isA kind p = .ok b := by
  unfold isA
  cases hnameable : p.parts.all (·.points.all isNameable) with
  | false => exact ⟨false, rfl⟩
  | true =>
    have hne := nodeAt_ne_nameTooLong ht hp (hlen hnameable)
    cases hn : d.nodeAt p with
    | ok node => exact ⟨kind node, rfl⟩
    | error fault =>
      cases fault with
      | nameTooLong => exact absurd hn hne
      | _ => exact ⟨false, rfl⟩

theorem isTooLong_of_isA {d : Disk} {kind : Node → Bool} {p : Path} {b : Bool}
    (h : d.isA kind p = .ok b) (hnameable : p.parts.all (·.points.all isNameable) = true) :
    isTooLong p = false := by
  cases hlen : isTooLong p with
  | false => rfl
  | true =>
    rw [isA_of_isTooLong d kind hnameable hlen] at h
    cases h

theorem nodeAt_of_isTooLong {d : Disk} {p : Path} (h : isTooLong p = true) :
    d.nodeAt p = .error .nameTooLong := by
  simp [nodeAt, locate, h]

theorem locate_of_isDirectory {d : Disk} {p : Path} (h : d.isDirectory p = .ok true) :
    ∃ loc, d.locate p = .ok loc ∧ d.tree.get? loc = some .directory := by
  obtain ⟨-, node, hnode, hkind⟩ := (isA_eq_true_iff d _ p).1 h
  obtain ⟨loc, hloc, hget⟩ := (nodeAt_eq_ok_iff d p node).1 hnode
  cases node with
  | directory => exact ⟨loc, hloc, hget⟩
  | _ => cases hkind

def ofDirectory (name : WideText) (entries : List (WideText × Node)) : Disk where
  tree := entries.foldl (fun t e => t.add [name] e.1 e.2) (FileTree.empty.add [] name .directory)
  here := []

structure IsPlain (name : WideText) (entries : List (WideText × Node)) : Prop where
  names : ∀ n ∈ name :: entries.map Prod.fst, isName n = true ∧ nameSize n ≤ nameLimit
  distinct : (entries.map Prod.fst).Nodup
  nodes : ∀ e ∈ entries, e.2.isLink = false

theorem entries_ofDirectory {name : WideText} {entries : List (WideText × Node)}
    (h : IsPlain name entries) : (ofDirectory name entries).tree.entries =
      ([name], .directory) :: entries.map fun e => ([name, e.1], e.2) := by
  have hstart : (FileTree.empty.add [] name .directory).entries = [([name], Node.directory)] := by
    have hname := (h.names name (by simp)).1
    simp [FileTree.add, FileTree.empty, FileTree.get?, hname]
  unfold ofDirectory
  simp only
  -- From the end, where entries are added: the last one meets a directory with all others.
  induction entries using List.reverseRecOn with
  | nil => exact hstart
  | append_singleton entries e ih =>
    have hplain : IsPlain name entries := by
      refine ⟨fun n hn => h.names n ?_, ?_, fun e he => h.nodes e (List.mem_append_left _ he)⟩
      · simp only [List.map_append, List.mem_cons, List.mem_append] at hn ⊢
        exact hn.imp_right .inl
      · have := h.distinct
        rw [List.map_append, List.nodup_append] at this
        exact this.1
    have ih := ih hplain
    have hfresh : e.1 ∉ entries.map Prod.fst := by
      have hdistinct := h.distinct
      rw [List.map_append, List.nodup_append] at hdistinct
      exact fun hm => hdistinct.2.2 e.1 hm e.1 (by simp) rfl
    rw [List.foldl_append, List.foldl_cons, List.foldl_nil]
    generalize entries.foldl (fun t e => t.add [name] e.1 e.2)
      (FileTree.empty.add [] name .directory) = t at ih
    have hdir : t.get? [name] = some .directory := by
      rw [t.get?_eq_some_iff (by simp), ih]
      exact List.mem_cons_self
    have hnone : t.get? ([name] ++ [e.1]) = none := by
      rw [Option.eq_none_iff_forall_ne_some]
      intro node hnode
      rw [t.get?_eq_some_iff (by simp), ih] at hnode
      simp only [List.mem_cons, List.mem_map, Prod.mk.injEq] at hnode
      rcases hnode with ⟨hlen, -⟩ | ⟨e', he', hloc, -⟩
      · simp at hlen
      · have heq : e'.1 = e.1 := by simpa using hloc
        exact hfresh (heq ▸ List.mem_map_of_mem he')
    have hname : isName e.1 = true := (h.names e.1 (by simp)).1
    rw [FileTree.add, dif_pos ⟨hdir, hnone, hname⟩]
    simp [ih]

section

variable {name : WideText} {entries : List (WideText × Node)} (h : IsPlain name entries)

include h

theorem hasShortNames_ofDirectory : (ofDirectory name entries).tree.HasShortNames where
  names := by
    rw [entries_ofDirectory h]
    intro e he n hn
    refine (h.names n ?_).2
    rcases List.mem_cons.1 he with rfl | he
    · rw [List.mem_singleton.1 hn]
      exact List.mem_cons_self
    · obtain ⟨e', he', rfl⟩ := List.mem_map.1 he
      rcases List.mem_cons.1 hn with rfl | hn
      · exact List.mem_cons_self
      · rw [List.mem_singleton.1 hn]
        exact List.mem_cons_of_mem _ (List.mem_map_of_mem he')
  targets := by
    intro loc target hlink
    rw [entries_ofDirectory h] at hlink
    rcases List.mem_cons.1 hlink with heq | hlink
    · cases heq
    · obtain ⟨e, he, heq⟩ := List.mem_map.1 hlink
      have hplain := h.nodes e he
      rw [(Prod.mk.inj heq).2] at hplain
      cases hplain

theorem get?_ofDirectory : (ofDirectory name entries).tree.get? [name] = some .directory := by
  rw [FileTree.get?_eq_some_iff _ (by simp), entries_ofDirectory h]
  exact List.mem_cons_self

theorem get?_ofDirectory_of_mem {file : WideText} {node : Node} (he : (file, node) ∈ entries) :
    (ofDirectory name entries).tree.get? [name, file] = some node := by
  rw [FileTree.get?_eq_some_iff _ (by simp), entries_ofDirectory h]
  exact List.mem_cons_of_mem _ (List.mem_map.2 ⟨_, he, rfl⟩)

theorem children_ofDirectory : (ofDirectory name entries).tree.children [name] = entries := by
  have hbelow (es : List (WideText × Node)) :
      (es.map fun e => ([name, e.1], e.2)).filterMap (fun e : Location × Node =>
        if [name].isPrefixOf e.1 ∧ e.1 ≠ [name] then some (e.1.drop [name].length, e.2) else none) =
      es.map fun e => ([e.1], e.2) := by
    induction es with
    | nil => rfl
    | cons e es ih => simp_all
  unfold FileTree.children FileTree.below
  rw [entries_ofDirectory h, List.filterMap_cons, hbelow]
  simp only [ne_eq, not_true_eq_false, and_false, if_false, List.filterMap_map]
  exact List.filterMap_some

theorem locate_ofDirectory (n : Nat) {p : Path} {names : List WideText} {node : Node}
    (hparts : p.parts = (List.replicate n [name, Path.up]).flatten ++ names)
    (hlen : isTooLong p = false) (hget : (ofDirectory name entries).tree.get? names = some node)
    (hplain : node.isLink = false) : (ofDirectory name entries).locate p = .ok names := by
  have hsize := (h.names name List.mem_cons_self).2
  have hstart : (if p.isAbsolute then [] else (ofDirectory name entries).here) = [] := by
    split <;> rfl
  have hdir : (ofDirectory name entries).tree.get? ([] ++ [name]) = some .directory :=
    get?_ofDirectory h
  rw [← List.nil_append names] at hget
  rw [locate_eq _ hlen, hstart, hparts, FileTree.walk_back_and_forth _ linkLimit hdir hsize]
  exact FileTree.walk_of_get? _ (hasShortNames_ofDirectory h) linkLimit hget hplain

theorem isA_ofDirectory (n : Nat) {p : Path} {names : List WideText} {node : Node}
    (hparts : p.parts = (List.replicate n [name, Path.up]).flatten ++ names)
    (hp : p.parts.all (·.points.all isNameable) = true ∧ isTooLong p = false)
    (hget : (ofDirectory name entries).tree.get? names = some node) (hplain : node.isLink = false)
    (kind : Node → Bool) : (ofDirectory name entries).isA kind p = .ok (kind node) :=
  isA_of_locate _ kind hp.1 (locate_ofDirectory h n hparts hp.2 hget hplain) hget

theorem bytesAt_ofDirectory (n : Nat) {p : Path} {names : List WideText} {content : List UInt8}
    (hparts : p.parts = (List.replicate n [name, Path.up]).flatten ++ names)
    (hfault : pathFault? p = none) (hlen : isTooLong p = false)
    (hget : (ofDirectory name entries).tree.get? names = some (.file content)) :
    (ofDirectory name entries).bytesAt p = .ok content := by
  have hnode := (nodeAt_eq_ok_iff _ p _).2 ⟨_, locate_ofDirectory h n hparts hlen hget rfl, hget⟩
  simp only [bytesAt, hfault, hnode]

end

end Disk

end ThemeLint
