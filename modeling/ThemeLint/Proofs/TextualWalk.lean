import ThemeLint.Proofs.Walk

/-!
Where a text leads that goes down a tree and back up. A walk takes the names one after the other and
looks at each; a path takes them as they stand, and double dots take back the part before them.
Without links the two come to the same place, and what is left of the text is never longer than it.
-/

set_option autoImplicit false

namespace ThemeLint

namespace FileTree

def IsLinkless (t : FileTree) : Prop := ∀ e ∈ t.entries, e.2.isLink = false

structure IsStorable (t : FileTree) : Prop where
  short : ∀ e ∈ t.entries, ∀ name ∈ e.1, nameSize name ≤ nameLimit
  nameable : ∀ e ∈ t.entries, ∀ name ∈ e.1, name.points.all Disk.isNameable = true

theorem IsLinkless.of_get? {t : FileTree} (h : t.IsLinkless) {loc : Location} {node : Node}
    (hget : t.get? loc = some node) : node.isLink = false := by
  by_cases hl : loc = []
  · subst hl
    cases hget
    rfl
  · exact h _ ((t.get?_eq_some_iff hl node).1 hget)

theorem IsStorable.hasShortNames {t : FileTree} (h : t.IsStorable) (hlinkless : t.IsLinkless) :
    t.HasShortNames where
  names := h.short
  targets _ _ hlink := nomatch hlinkless _ hlink

theorem IsStorable.all_isNameable {t : FileTree} (h : t.IsStorable) {loc : Location} {node : Node}
    (hget : t.get? loc = some node) : loc.all (·.points.all Disk.isNameable) = true := by
  by_cases hl : loc = []
  · rw [hl, List.all_nil]
  · exact List.all_eq_true.2 (h.nameable _ ((t.get?_eq_some_iff hl node).1 hget))

end FileTree

namespace Path

/-- What is left of names behind others, kept in reverse, once dots say nothing and double dots are
taken back. -/
def collapse (kept names : List WideText) : List WideText :=
  (names.filter (· ≠ here)).foldl (collapseStep true) kept

theorem collapse_append (kept a b : List WideText) :
    collapse kept (a ++ b) = collapse (collapse kept a) b := by
  rw [collapse, List.filter_append, List.foldl_append]
  rfl

theorem collapse_up (names : List WideText) (h : up ∉ names) : collapse names [up] = names.tail := by
  change collapseStep true names up = _
  cases names with
  | nil => rfl
  | cons last before =>
    rw [List.mem_cons, not_or] at h
    simp [collapseStep, Ne.symm h.1]

theorem collapse_name (kept : List WideText) {name : WideText} (hhere : name ≠ here)
    (hup : name ≠ up) : collapse kept [name] = name :: kept := by
  simp [collapse, collapseStep, hhere, hup]

end Path

namespace FileTree

inductive StepsTo (t : FileTree) (loc : Location) (name : WideText) : Location → Prop where
  | here : name = Path.here → StepsTo t loc name loc
  | up : name = Path.up → StepsTo t loc name loc.dropLast
  | down {node : Node} : name ≠ Path.here → name ≠ Path.up → t.get? (loc ++ [name]) = some node →
      StepsTo t loc name (loc ++ [name])

theorem stepsTo_of_walk {t : FileTree} (h : t.IsLinkless) {links : Nat} {loc target : Location}
    {name : WideText} {names : List WideText}
    (hwalk : t.walk links loc (name :: names) = .ok target) :
    ∃ next, t.StepsTo loc name next ∧ t.walk links next names = .ok target := by
  rw [walk] at hwalk
  split at hwalk
  · cases hwalk
  split at hwalk
  next hhere => exact ⟨loc, .here hhere, hwalk⟩
  split at hwalk
  next hup => exact ⟨_, .up hup, hwalk⟩
  split at hwalk
  · cases hwalk
  split at hwalk
  · cases hwalk
  next hget => cases h.of_get? hget
  next hhere hup _ _ _ _ hget => exact ⟨_, .down hhere hup hget, hwalk⟩

/-- One step goes where the name leads textually, and never leaves double dots behind. -/
theorem StepsTo.reverse_eq {t : FileTree} {loc next : Location} {name : WideText}
    (h : t.StepsTo loc name next) (hloc : Path.up ∉ loc) :
    next.reverse = Path.collapse loc.reverse [name] ∧ Path.up ∉ next := by
  cases h with
  | here hhere =>
    subst hhere
    exact ⟨rfl, hloc⟩
  | up hup =>
    subst hup
    rw [Path.collapse_up _ (List.mem_reverse.not.2 hloc), List.tail_reverse]
    exact ⟨rfl, fun hm => hloc ((List.dropLast_sublist loc).subset hm)⟩
  | down hhere hup _ =>
    rw [Path.collapse_name _ hhere hup, List.reverse_concat]
    refine ⟨rfl, ?_⟩
    simpa [hloc] using Ne.symm hup

theorem reverse_of_walk {t : FileTree} (h : t.IsLinkless) {links : Nat} {loc target : Location}
    {names : List WideText} (hloc : Path.up ∉ loc) (hwalk : t.walk links loc names = .ok target) :
    target.reverse = Path.collapse loc.reverse names := by
  -- Over the names still ahead. No place on the way has double dots in it, so what a step back takes
  -- off the place is what it takes back of the text.
  induction names generalizing loc with
  | nil =>
    rw [walk] at hwalk
    rw [Except.ok.inj hwalk]
    rfl
  | cons name names ih =>
    obtain ⟨next, hstep, hrest⟩ := stepsTo_of_walk h hwalk
    obtain ⟨hreverse, hnext⟩ := hstep.reverse_eq hloc
    rw [ih hnext hrest, hreverse, ← Path.collapse_append, List.singleton_append]

end FileTree

namespace Path

theorem partsOf_append_cons (a b : List CodePoint) :
    partsOf (a ++ .char '/' :: b) = partsOf a ++ partsOf b := by
  simp only [partsOf, Text.pieces_append_cons, List.map_append, List.filter_append]

/-- But for single dots, the names that a walk takes of a text are the parts of its path. -/
theorem filter_targetNames (t : WideText) :
    (targetNames t).filter (· ≠ here) = partsOf t.points := by
  have hparts : (((Text.pieces (.char '/') t.points).map WideText.mk).filter (!·.isEmpty)).filter
      (· ≠ here) = partsOf t.points := by
    rw [List.filter_filter, partsOf]
    refine List.filter_congr fun part _ => ?_
    simp [isIdle, Bool.and_comm]
  unfold targetNames
  dsimp only
  split
  · rw [List.filter_append, hparts, List.filter_cons_of_neg (by simp), List.filter_nil,
      List.append_nil]
  · exact hparts

def extent : List WideText → Nat
  | [] => 0
  | part :: parts => nameSize part + 1 + extent parts

theorem extent_append (a b : List WideText) : extent (a ++ b) = extent a + extent b := by
  induction a with
  | nil => rw [List.nil_append, extent, Nat.zero_add]
  | cons part a ih =>
    rw [List.cons_append, extent, extent, ih]
    omega

theorem extent_reverse (parts : List WideText) : extent parts.reverse = extent parts := by
  induction parts with
  | nil => rfl
  | cons part parts ih =>
    rw [List.reverse_cons, extent_append, ih, extent, extent, extent, Nat.add_zero, Nat.add_comm]

theorem extent_filter_le (keep : WideText → Bool) (parts : List WideText) :
    extent (parts.filter keep) ≤ extent parts := by
  induction parts with
  | nil => exact Nat.le_refl _
  | cons part parts ih =>
    rw [List.filter_cons, extent]
    split
    · rw [extent]
      omega
    · omega

theorem extent_collapseStep_le (absolute : Bool) (kept : List WideText) (part : WideText) :
    extent (collapseStep absolute kept part) ≤ extent kept + (nameSize part + 1) := by
  unfold collapseStep
  split
  next hup =>
    subst hup
    split
    · split <;> simp [extent]
    · split <;> simp only [extent] <;> omega
  next =>
    rw [extent]
    omega

theorem extent_foldl_le (absolute : Bool) (kept parts : List WideText) :
    extent (parts.foldl (collapseStep absolute) kept) ≤ extent kept + extent parts := by
  induction parts generalizing kept with
  | nil => exact Nat.le_refl _
  | cons part parts ih =>
    have hstep := extent_collapseStep_le absolute kept part
    have hrest := ih (collapseStep absolute kept part)
    rw [List.foldl_cons, extent]
    omega

theorem nameSize_append (a b : List CodePoint) :
    nameSize ⟨a ++ b⟩ = nameSize ⟨a⟩ + nameSize ⟨b⟩ := by
  have hfrom (size : CodePoint → Nat) (b : List CodePoint) (n : Nat) :
      b.foldl (fun n x => n + size x) n = n + b.foldl (fun n x => n + size x) 0 := by
    induction b generalizing n with
    | nil => rfl
    | cons x b ih =>
      rw [List.foldl_cons, List.foldl_cons, ih, ih (0 + size x)]
      omega
  rw [nameSize, List.foldl_append, hfrom]
  rfl

theorem nameSize_slash_cons (a : List CodePoint) :
    nameSize ⟨.char '/' :: a⟩ = 1 + nameSize ⟨a⟩ :=
  nameSize_append [.char '/'] a

theorem nameSize_joinPieces {parts : List WideText} (h : parts ≠ []) :
    nameSize ⟨Text.joinPieces (.char '/') (parts.map WideText.points)⟩ + 1 = extent parts := by
  induction parts with
  | nil => exact absurd rfl h
  | cons part parts ih =>
    cases parts with
    | nil => simp [Text.joinPieces, extent]
    | cons next parts =>
      have ih := ih (List.cons_ne_nil _ _)
      have hpart : nameSize ⟨part.points⟩ = nameSize part := rfl
      rw [List.map_cons, Text.joinPieces_cons _ _ (by simp), nameSize_append, nameSize_slash_cons,
        extent]
      omega

theorem extent_partsOf_le (a : List CodePoint) : extent (partsOf a) ≤ nameSize ⟨a⟩ + 1 := by
  have hne : (Text.pieces (.char '/') a).map WideText.mk ≠ [] := by
    simpa using Text.pieces_ne_nil _ a
  have hsize := nameSize_joinPieces hne
  rw [List.map_map, Function.comp_def, List.map_id', Text.joinPieces_pieces] at hsize
  rw [hsize]
  exact extent_filter_le _ _

theorem nameSize_text_root (parts : List WideText) :
    nameSize (text ⟨.root, parts⟩) ≤ max 1 (extent parts) := by
  have htext : text ⟨.root, parts⟩ =
      ⟨.char '/' :: Text.joinPieces (.char '/') (parts.map WideText.points)⟩ := by
    have hslash : WideText.ofString Anchor.root.text = ⟨[.char '/']⟩ := by decide
    rw [text, rawText, hslash]
    rfl
  rw [htext, nameSize_slash_cons]
  by_cases h : parts = []
  · subst h
    decide
  · have := nameSize_joinPieces h
    omega

theorem exists_eq_slash_cons {t : WideText} (h : startsAtRoot t = true) :
    ∃ rest, t = ⟨.char '/' :: rest⟩ := by
  obtain ⟨rest, hrest⟩ := List.head?_eq_some_iff.1 (beq_iff_eq.1 h)
  exact ⟨rest, congrArg WideText.mk hrest⟩

theorem nameSize_text_normalize_le {t : WideText} (h : startsAtRoot t = true) :
    nameSize (normalize ⟨.root, partsOf t.points⟩).text ≤ nameSize t := by
  obtain ⟨rest, rfl⟩ := exists_eq_slash_cons h
  have hparts : partsOf (.char '/' :: rest) = partsOf rest := partsOf_append_cons [] rest
  have hfold := extent_foldl_le true [] (partsOf rest)
  have hrest := extent_partsOf_le rest
  have htext := nameSize_text_root ((partsOf rest).foldl (collapseStep true) []).reverse
  rw [extent_reverse] at htext
  rw [hparts, nameSize_slash_cons]
  change nameSize (text ⟨.root, ((partsOf rest).foldl (collapseStep true) []).reverse⟩) ≤ _
  rw [extent] at hfold
  omega

end Path

end ThemeLint
