import ThemeLint.Path

/-!
A tree of files in memory. Each entry is kept under its whole location, the names from the root
down. Four facts hold of every tree: no location occurs twice, whatever holds an entry is a
directory, the root itself needs no entry, and no name stands for the directory it is in, for the
one above, or for more than one step.
-/

set_option autoImplicit false

namespace ThemeLint

abbrev Location := List WideText

inductive Node where
  | directory
  | file (content : List UInt8)
  /-- A regular file that may be looked at but not read. -/
  | locked
  | link (target : WideText)
  deriving DecidableEq, Repr

def Node.isDirectory : Node → Bool
  | .directory => true
  | _ => false

def Node.isFile : Node → Bool
  | .file _ | .locked => true
  | _ => false

def Node.isLink : Node → Bool
  | .link _ => true
  | _ => false

def isName (name : WideText) : Bool :=
  !Path.isIdle name && name != Path.up && !name.points.contains (.char '/')

structure FileTree where
  entries : List (Location × Node)
  distinct : (entries.map Prod.fst).Nodup
  rooted : [] ∉ entries.map Prod.fst
  grounded : ∀ (loc : Location) (name : WideText) (node : Node), (loc ++ [name], node) ∈ entries →
    loc = [] ∨ (loc, Node.directory) ∈ entries
  named : ∀ e ∈ entries, ∀ name ∈ e.1, isName name

namespace FileTree

def empty : FileTree := ⟨[], by simp, by simp, by simp, by simp⟩

def get? (t : FileTree) (loc : Location) : Option Node :=
  if loc = [] then some .directory else (t.entries.find? (·.1 = loc)).map Prod.snd

theorem find?_eq_some_iff {entries : List (Location × Node)} (h : (entries.map Prod.fst).Nodup)
    (loc : Location) (e : Location × Node) :
    entries.find? (·.1 = loc) = some e ↔ e.1 = loc ∧ e ∈ entries := by
  induction entries with
  | nil => simp
  | cons a as ih =>
    simp only [List.map_cons, List.nodup_cons] at h
    rw [List.find?_cons]
    by_cases ha : a.1 = loc
    · simp only [ha, decide_true, Option.some.injEq, List.mem_cons]
      constructor
      · intro heq
        subst heq
        exact ⟨ha, .inl rfl⟩
      · intro hmem
        rcases hmem with ⟨he, rfl | hm⟩
        · rfl
        · exact absurd (List.mem_map_of_mem (f := Prod.fst) hm) (by rw [he, ← ha]; exact h.1)
    · simp only [ha, decide_false, List.mem_cons]
      rw [ih h.2]
      constructor
      · intro hmem
        obtain ⟨h1, h2⟩ := hmem
        exact ⟨h1, .inr h2⟩
      · intro hmem
        rcases hmem with ⟨h1, rfl | h2⟩
        · exact absurd h1 ha
        · exact ⟨h1, h2⟩

theorem get?_eq_some_iff (t : FileTree) {loc : Location} (hl : loc ≠ []) (node : Node) :
    t.get? loc = some node ↔ (loc, node) ∈ t.entries := by
  simp only [get?, hl, if_false, Option.map_eq_some_iff]
  constructor
  · intro h
    obtain ⟨e, he, rfl⟩ := h
    obtain ⟨h1, h2⟩ := (find?_eq_some_iff t.distinct loc e).1 he
    rw [← h1]; exact h2
  · intro h
    exact ⟨(loc, node), (find?_eq_some_iff t.distinct loc _).2 ⟨rfl, h⟩, rfl⟩

@[simp] theorem get?_nil (t : FileTree) : t.get? [] = some .directory := rfl

theorem mem_keys_of_get?_ne_none (t : FileTree) {loc : Location} (h : loc ∈ t.entries.map Prod.fst) :
    t.get? loc ≠ none := by
  obtain ⟨e, he, rfl⟩ := List.mem_map.1 h
  intro hn
  by_cases hl : e.1 = []
  · rw [hl] at hn; simp at hn
  · rw [(t.get?_eq_some_iff hl e.2).2 he] at hn; simp at hn

theorem get?_parent (t : FileTree) {loc : Location} {name : WideText} {node : Node}
    (h : t.get? (loc ++ [name]) = some node) : t.get? loc = some .directory := by
  rcases t.grounded loc name node ((t.get?_eq_some_iff (by simp) node).1 h) with rfl | hd
  · rfl
  · by_cases hl : loc = []
    · subst hl; rfl
    · exact (t.get?_eq_some_iff hl _).2 hd

theorem isName_of_get? (t : FileTree) {loc : Location} {node : Node} (h : t.get? loc = some node) :
    ∀ name ∈ loc, isName name := by
  by_cases hl : loc = []
  · simp [hl]
  · exact t.named _ ((t.get?_eq_some_iff hl node).1 h)

/-- A new entry in a directory; nothing changes where there is no such directory, or where the name
is taken or is none. -/
def add (t : FileTree) (dir : Location) (name : WideText) (node : Node) : FileTree :=
  if h : t.get? dir = some .directory ∧ t.get? (dir ++ [name]) = none ∧ isName name then
    { entries := t.entries ++ [(dir ++ [name], node)]
      distinct := by
        rw [List.map_append, List.nodup_append]
        refine ⟨t.distinct, by simp, ?_⟩
        intro a ha b hb
        simp only [List.map_cons, List.map_nil, List.mem_singleton] at hb
        intro heq
        subst heq
        exact t.mem_keys_of_get?_ne_none ha (hb ▸ h.2.1)
      rooted := by
        simp only [List.map_append, List.mem_append, not_or]
        exact ⟨t.rooted, by simp⟩
      grounded := by
        intro loc name' node' hm
        rcases List.mem_append.1 hm with hm | hm
        · rcases t.grounded loc name' node' hm with h1 | h1
          · exact .inl h1
          · exact .inr (List.mem_append.2 (.inl h1))
        · simp only [List.mem_singleton, Prod.mk.injEq] at hm
          obtain ⟨rfl, -⟩ := List.append_inj' hm.1 rfl
          by_cases hl : loc = []
          · exact .inl hl
          · exact .inr (List.mem_append.2 (.inl ((t.get?_eq_some_iff hl _).1 h.1)))
      named := by
        intro e he name' hn
        rcases List.mem_append.1 he with he | he
        · exact t.named e he name' hn
        · rw [List.mem_singleton.1 he] at hn
          rcases List.mem_append.1 hn with hn | hn
          · exact t.isName_of_get? h.1 name' hn
          · rw [List.mem_singleton.1 hn]; exact h.2.2 }
  else t

def remove (t : FileTree) (loc : Location) : FileTree where
  entries := t.entries.filter fun e => !loc.isPrefixOf e.1
  distinct := t.distinct.sublist (List.filter_sublist.map _)
  rooted := fun h => t.rooted ((List.filter_sublist.map _).subset h)
  grounded := by
    intro dir name node hm
    obtain ⟨hm, hp⟩ := List.mem_filter.1 hm
    rcases t.grounded dir name node hm with h1 | h1
    · exact .inl h1
    · refine .inr (List.mem_filter.2 ⟨h1, ?_⟩)
      simp only [Bool.not_eq_true', Bool.eq_false_iff, ne_eq, List.isPrefixOf_iff_prefix] at hp ⊢
      exact fun hpre => hp (hpre.trans (List.prefix_append _ _))
  named := fun e he => t.named e (List.mem_filter.1 he).1

def below (t : FileTree) (loc : Location) : List (List WideText × Node) :=
  t.entries.filterMap fun e =>
    if loc.isPrefixOf e.1 ∧ e.1 ≠ loc then some (e.1.drop loc.length, e.2) else none

def children (t : FileTree) (dir : Location) : List (WideText × Node) :=
  (t.below dir).filterMap fun
    | ([name], node) => some (name, node)
    | _ => none

theorem mem_below_iff (t : FileTree) (loc : Location) (names : List WideText) (node : Node) :
    (names, node) ∈ t.below loc ↔ names ≠ [] ∧ (loc ++ names, node) ∈ t.entries := by
  simp only [below, List.mem_filterMap]
  constructor
  · intro h
    obtain ⟨⟨l, n⟩, hm, he⟩ := h
    split at he
    next hc =>
      simp only [Option.some.injEq, Prod.mk.injEq] at he
      obtain ⟨hp, hne⟩ := hc
      obtain ⟨s, rfl⟩ := List.isPrefixOf_iff_prefix.1 hp
      simp only [List.drop_left] at he
      obtain ⟨rfl, rfl⟩ := he
      refine ⟨?_, hm⟩
      intro heq
      subst heq
      exact hne (by simp)
    next => simp at he
  · intro h
    obtain ⟨hn, hm⟩ := h
    exact ⟨_, hm, by simp [hn]⟩

theorem mem_children_iff (t : FileTree) (dir : Location) (name : WideText) (node : Node) :
    (name, node) ∈ t.children dir ↔ (dir ++ [name], node) ∈ t.entries := by
  simp only [children, List.mem_filterMap, Prod.exists]
  constructor
  · intro h
    obtain ⟨names, node', hm, he⟩ := h
    split at he
    next => simp_all [mem_below_iff]
    next => simp at he
  · intro h
    exact ⟨[name], node, (t.mem_below_iff dir [name] node).2 ⟨by simp, h⟩, rfl⟩

end FileTree

end ThemeLint
