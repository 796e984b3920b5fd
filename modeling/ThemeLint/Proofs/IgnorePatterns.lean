import Mathlib.Data.List.Forall2
import ThemeLint.Proofs.Listing
import ThemeLint.Proofs.PatternReading

/-!
Which paths are left out of a view. A pattern matches the texts that can be cut into one piece for
each of its tokens, whichever way a star has to be stretched for it; all ways are followed at once,
and of the texts that are left to read behind a star the longest stands for all.
-/

set_option autoImplicit false

namespace ThemeLint

namespace Glob

def Within (ranges : List (CodePoint × CodePoint)) (c : CodePoint) : Prop :=
  ∃ r ∈ ranges, r.1.toNat ≤ c.toNat ∧ c.toNat ≤ r.2.toNat

instance (ranges : List (CodePoint × CodePoint)) (c : CodePoint) : Decidable (Within ranges c) :=
  inferInstanceAs (Decidable (∃ r ∈ ranges, _))

theorem Bracket.contains_iff (b : Bracket) (c : CodePoint) :
    b.contains c = true ↔ (Within b.ranges c ↔ b.negated = false) := by
  have hany : b.ranges.any (fun r => r.1.toNat ≤ c.toNat && c.toNat ≤ r.2.toNat) = true ↔
      Within b.ranges c := by
    simp [Within]
  rw [contains, ← hany]
  cases b.negated <;> simp

/-- The pieces of a text that a token stands for. -/
def Token.Takes : Token → List CodePoint → Prop
  | .any, _ => True
  | .one, piece => ∃ c, piece = [c]
  | .bracket set, piece => ∃ c, piece = [c] ∧ (Within set.ranges c ↔ set.negated = false)
  | .char a, piece => piece = [a]

/-- What a token that stands for one point leaves of a text. -/
def Token.rest? : Token → List CodePoint → Option (List CodePoint)
  | _, [] => none
  | .any, _ :: _ => none
  | .one, _ :: s => some s
  | .bracket set, c :: s => if set.contains c then some s else none
  | .char a, c :: s => if c = a then some s else none

theorem Token.advance_eq {t : Token} (h : t ≠ .any) (ss : List (List CodePoint)) :
    t.advance ss = ss.filterMap t.rest? := by
  cases t with
  | any => exact absurd rfl h
  | one => exact List.filterMap_congr fun s _ => by cases s <;> rfl
  | bracket set => exact List.filterMap_congr fun s _ => by cases s <;> rfl
  | char a => exact List.filterMap_congr fun s _ => by cases s <;> rfl

theorem Token.exists_of_rest? {t : Token} {s left : List CodePoint} (h : t.rest? s = some left) :
    ∃ c, s = c :: left := by
  cases s with
  | nil => cases t <;> cases h
  | cons c s =>
    refine ⟨c, congrArg (c :: ·) ?_⟩
    cases t with
    | any => cases h
    | one => exact Option.some.inj h
    | bracket set =>
      rw [rest?] at h
      split at h
      · exact Option.some.inj h
      · cases h
    | char a =>
      rw [rest?] at h
      split at h
      · exact Option.some.inj h
      · cases h

theorem Token.rest?_eq_some_iff {t : Token} (h : t ≠ .any) (s left : List CodePoint) :
    t.rest? s = some left ↔ ∃ piece, t.Takes piece ∧ s = piece ++ left := by
  cases t with
  | any => exact absurd rfl h
  | one => cases s <;> simp [rest?, Takes]
  | bracket set =>
    cases s with
    | nil => simp [rest?, Takes]
    | cons c s =>
      simp [rest?, Takes, ← Bracket.contains_iff]
  | char a => cases s <;> simp [rest?, Takes]

/-- The first list is the longest, and each of the others is an end of all those before it. -/
def AreEnds (ss : List (List CodePoint)) : Prop := ss.Pairwise fun s left => left <:+ s

theorem areEnds_ends (s : List CodePoint) : AreEnds (ends s) := by
  induction s with
  | nil => exact List.pairwise_singleton _ _
  | cons c s ih =>
    refine List.Pairwise.cons (fun left hleft => ?_) ih
    exact ((mem_ends_iff s left).1 hleft).trans (List.suffix_cons c s)

theorem AreEnds.advance {ss : List (List CodePoint)} (h : AreEnds ss) (t : Token) :
    AreEnds (t.advance ss) := by
  by_cases ht : t = .any
  · subst ht
    cases ss with
    | nil => exact List.Pairwise.nil
    | cons s ss => exact areEnds_ends s
  · rw [Token.advance_eq ht]
    refine List.Pairwise.filterMap _ (fun s s' hends left hleft left' hleft' => ?_) h
    obtain ⟨c, rfl⟩ := Token.exists_of_rest? hleft
    obtain ⟨c', rfl⟩ := Token.exists_of_rest? hleft'
    rcases List.suffix_cons_iff.1 hends with heq | hends
    · exact (List.cons.inj heq).2 ▸ List.suffix_rfl
    · exact (List.suffix_cons c' left').trans hends

/-- What is left after a token is what is left behind some piece that it stands for. -/
theorem mem_advance_iff {ss : List (List CodePoint)} (h : AreEnds ss) (t : Token)
    (left : List CodePoint) :
    left ∈ t.advance ss ↔ ∃ s ∈ ss, ∃ piece, t.Takes piece ∧ s = piece ++ left := by
  by_cases ht : t = .any
  · subst ht
    cases ss with
    | nil => simp [Token.advance]
    | cons s ss =>
      have hlongest : ∀ s' ∈ s :: ss, s' <:+ s := by
        intro s' hs'
        rcases List.mem_cons.1 hs' with rfl | hs'
        · exact List.suffix_rfl
        · exact List.rel_of_pairwise_cons h hs'
      rw [Token.advance, mem_ends_iff]
      constructor
      · intro hleft
        obtain ⟨piece, hpiece⟩ := hleft
        exact ⟨s, List.mem_cons_self, piece, trivial, hpiece.symm⟩
      · intro hsome
        obtain ⟨s', hs', piece, -, rfl⟩ := hsome
        exact (List.suffix_append piece left).trans (hlongest _ hs')
  · simp only [Token.advance_eq ht, List.mem_filterMap, Token.rest?_eq_some_iff ht]

/-- The tokens taken one after the other leave what is left behind pieces for all of them. -/
theorem mem_foldl_advance_iff {ss : List (List CodePoint)} (h : AreEnds ss) (ts : List Token)
    (left : List CodePoint) :
    left ∈ ts.foldl (fun ss t => t.advance ss) ss ↔
      ∃ s ∈ ss, ∃ pieces, List.Forall₂ Token.Takes ts pieces ∧ s = pieces.flatten ++ left := by
  -- Over the tokens. Each leaves ends of one text again, which the next one relies on.
  induction ts generalizing ss with
  | nil => simp
  | cons t ts ih =>
    rw [List.foldl_cons, ih (h.advance t)]
    constructor
    · intro hsome
      obtain ⟨s, hs, pieces, htakes, rfl⟩ := hsome
      obtain ⟨whole, hwhole, piece, htake, rfl⟩ := (mem_advance_iff h t _).1 hs
      exact ⟨_, hwhole, piece :: pieces, .cons htake htakes, by simp⟩
    · intro hsome
      obtain ⟨s, hs, pieces, htakes, rfl⟩ := hsome
      cases htakes with
      | @cons _ piece _ pieces htake htakes =>
        have hleft : pieces.flatten ++ left ∈ t.advance ss :=
          (mem_advance_iff h t _).2 ⟨_, hs, piece, htake, by simp⟩
        exact ⟨_, hleft, pieces, htakes, rfl⟩

/-- A pattern matches a text that can be cut into one piece for each of its tokens. -/
theorem globMatches_iff (pattern text : WideText) :
    globMatches pattern text = true ↔
      ∃ pieces, List.Forall₂ Token.Takes (tokens pattern.points) pieces ∧
        pieces.flatten = text.points := by
  have hstart : AreEnds [text.points] := List.pairwise_singleton _ _
  unfold globMatches
  simp only [List.any_eq_true, List.isEmpty_iff, exists_eq_right, mem_foldl_advance_iff hstart,
    List.mem_singleton, exists_eq_left, List.append_nil, eq_comm (a := text.points)]

/-- A text can be cut into one piece for each token of a pattern. -/
def Fits (pattern text : List CodePoint) : Prop :=
  ∃ ts pieces, Reads pattern ts ∧ List.Forall₂ Token.Takes ts pieces ∧ pieces.flatten = text

theorem globMatches_iff_fits {pattern : WideText}
    (hforward : ∀ ts, Reads pattern.points ts → SetsAreForward ts) (text : WideText) :
    globMatches pattern text = true ↔ Fits pattern.points text.points := by
  obtain ⟨ts, hreads, htokens⟩ := exists_reads pattern.points
  rw [globMatches_iff, htokens (hforward ts hreads)]
  constructor
  · rintro ⟨pieces, htakes, hflat⟩
    exact ⟨ts, pieces, hreads, htakes, hflat⟩
  · rintro ⟨ts', pieces, hreads', htakes, hflat⟩
    obtain rfl := hreads.unique hreads'
    exact ⟨pieces, htakes, hflat⟩

theorem forall₂_takes_literal_iff (s : List CodePoint) (ts : List Token)
    (pieces : List (List CodePoint)) :
    List.Forall₂ Token.Takes (s.map Token.char ++ ts) pieces ↔
      ∃ more, List.Forall₂ Token.Takes ts more ∧ pieces = s.map ([·]) ++ more := by
  induction s generalizing pieces with
  | nil => simp
  | cons c s ih =>
    simp only [List.map_cons, List.cons_append, List.forall₂_cons_left_iff, ih, Token.Takes]
    constructor
    · rintro ⟨_, _, rfl, ⟨more, hmore, rfl⟩, rfl⟩
      exact ⟨more, hmore, rfl⟩
    · rintro ⟨more, hmore, rfl⟩
      exact ⟨_, _, rfl, ⟨more, hmore, rfl⟩, rfl⟩

theorem setsAreForward_literal (s : List CodePoint) :
    SetsAreForward (s.map Token.char ++ [.any]) := by
  intro set hset
  simp at hset

theorem fits_literal_any_iff {s : List CodePoint} (hs : ∀ c ∈ s, IsLiteral c)
    (text : List CodePoint) : Fits (s ++ [.char '*']) text ↔ s <+: text := by
  have hreads : Reads (s ++ [.char '*']) (s.map Token.char ++ [.any]) := (Reads.any .nil).literal hs
  constructor
  · rintro ⟨ts, pieces, hreads', htakes, rfl⟩
    obtain rfl := hreads.unique hreads'
    obtain ⟨more, -, rfl⟩ := (forall₂_takes_literal_iff _ _ _).1 htakes
    simp [← List.flatMap_def]
  · rintro ⟨piece, rfl⟩
    have htakes : List.Forall₂ Token.Takes (s.map Token.char ++ [.any]) (s.map ([·]) ++ [piece]) :=
      (forall₂_takes_literal_iff _ _ _).2 ⟨[piece], .cons trivial .nil, rfl⟩
    exact ⟨_, _, hreads, htakes, by simp [← List.flatMap_def]⟩

end Glob

namespace ThemeView

/-- The text of a path as seen from its root: the names with slashes between them, or a dot. -/
def relativeText (names : List WideText) : List CodePoint :=
  if names = [] then [.char '.'] else Text.joinPieces (.char '/') (names.map WideText.points)

theorem points_text_relative {names : List WideText}
    (h : ∀ name ∈ names, Path.isIdle name = false) :
    (⟨.relative, names⟩ : Path).text.points = relativeText names := by
  cases names with
  | nil => rfl
  | cons name names =>
    have hne : Text.joinPieces (.char '/') ((name :: names).map WideText.points) ≠ [] := by
      have hidle := h name List.mem_cons_self
      rw [Path.isIdle, Bool.or_eq_false_iff] at hidle
      have hname : name.points ≠ [] := by simpa [WideText.isEmpty] using hidle.1
      cases names with
      | nil => exact hname
      | cons next names => simp [Text.joinPieces]
    have hraw : (⟨.relative, name :: names⟩ : Path).rawText =
        ⟨Text.joinPieces (.char '/') ((name :: names).map WideText.points)⟩ := rfl
    rw [Path.text, hraw, if_neg (by simpa [WideText.isEmpty] using hne), relativeText,
      if_neg (List.cons_ne_nil _ _)]

open Glob

/-- Whether a path below a root is left out: a pattern is read from the left in the one way in which
it can be, and the text of the path must be cut as one of the patterns asks. The pattern for a
directory leaves out what begins with its text, and without patterns nothing is left out. -/
theorem isIgnored_iff_fits (root : Path) {names : List WideText}
    (hnames : ∀ name ∈ names, Path.isIdle name = false) {patterns : List WideText}
    (hpatterns : ∀ pattern ∈ patterns, ∀ ts, Reads pattern.points ts → SetsAreForward ts) :
    (∀ pattern, ∃! ts, Reads pattern ts) ∧
    (∃ b, isIgnored (root.descend names) root patterns = .ok b ∧
      (b = true ↔ ∃ pattern ∈ patterns, Fits pattern.points (relativeText names))) ∧
    (∀ dir : WideText, (∀ c ∈ dir.points, IsLiteral c) →
      isIgnored (root.descend names) root [dir ++ ("/*" : WideText)] =
        .ok (decide (dir.points ++ [.char '/'] <+: relativeText names))) ∧
    isIgnored (root.descend names) root [] = .ok false := by
  have htext := points_text_relative hnames
  refine ⟨fun pattern => ?_, ⟨_, isIgnored_descend root patterns names, ?_⟩, fun dir hdir => ?_, ?_⟩
  · obtain ⟨ts, hreads, -⟩ := exists_reads pattern
    exact ⟨ts, hreads, fun ts' hreads' => hreads'.unique hreads⟩
  · rw [leavesOut, List.any_eq_true, ← htext]
    exact exists_congr fun pattern => and_congr_right fun hpattern =>
      globMatches_iff_fits (hpatterns pattern hpattern) _
  · have hpoints : (dir ++ ("/*" : WideText)).points =
        (dir.points ++ [.char '/']) ++ [.char '*'] := by
      rw [List.append_assoc]
      rfl
    have hliteral : ∀ c ∈ dir.points ++ [CodePoint.char '/'], IsLiteral c := by
      intro c hc
      rcases List.mem_append.1 hc with hc | hc
      · exact hdir c hc
      · rw [List.mem_singleton.1 hc]
        decide
    have hforward : ∀ ts, Reads (dir ++ ("/*" : WideText)).points ts → SetsAreForward ts := by
      rw [hpoints]
      intro ts hreads
      rw [hreads.unique ((Reads.any .nil).literal hliteral)]
      exact setsAreForward_literal _
    have hfits := globMatches_iff_fits hforward (⟨.relative, names⟩ : Path).text
    rw [hpoints, fits_literal_any_iff hliteral, htext] at hfits
    rw [isIgnored_descend, leavesOut, List.any_cons, List.any_nil, Bool.or_false]
    exact congrArg Except.ok (by rw [Bool.eq_iff_iff, hfits, decide_eq_true_iff])
  · rw [isIgnored_descend]
    rfl

def sampleTokens : List Token :=
  [.bracket ⟨true, [(.char 'a', .char 'c')]⟩, .any, .bracket ⟨false, [(.char ']', .char '_')]⟩] ++
    ("y.json" : WideText).points.map .char

theorem reads_sample : Reads ("[!a-c]*[]-_]y.json" : WideText).points sampleTokens := by
  have hliteral : Reads ("y.json" : WideText).points (("y.json" : WideText).points.map .char) := by
    simpa using Reads.nil.literal (s := ("y.json" : WideText).points) (by decide)
  have hnegated : IsInside true ("a-c" : WideText).points := ⟨by decide, by decide, by decide⟩
  have hplain : IsInside false ("]-_" : WideText).points := ⟨by decide, by decide, by decide⟩
  exact .set hnegated rfl (.any (.set hplain rfl hliteral))

theorem isIgnored_of_sample :
    isIgnored ((⟨.root, ["p"]⟩ : Path).descend ["node_modules", "x]y.json"]) ⟨.root, ["p"]⟩
      ["src/*", "[!a-c]*[]-_]y.json"] = .ok true := by
  have hdirectory :
      Reads ("src/*" : WideText).points (("src/" : WideText).points.map .char ++ [.any]) :=
    (Reads.any .nil).literal (s := ("src/" : WideText).points) (by decide)
  have hforward : ∀ pattern ∈ ([("src/*" : WideText), ("[!a-c]*[]-_]y.json" : WideText)]),
      ∀ ts, Reads pattern.points ts → SetsAreForward ts := by
    intro pattern hpattern ts hreads set hset
    rcases List.mem_cons.1 hpattern with rfl | hpattern
    · rw [hreads.unique hdirectory] at hset
      exact setsAreForward_literal _ set hset
    · rw [List.mem_singleton.1 hpattern] at hreads
      rw [hreads.unique reads_sample] at hset
      have hsets : set = ⟨true, [(.char 'a', .char 'c')]⟩ ∨
          set = ⟨false, [(.char ']', .char '_')]⟩ := by
        simpa [sampleTokens] using hset
      rcases hsets with rfl | rfl <;> decide
  have htakes : List.Forall₂ Token.Takes sampleTokens
      ([("n" : WideText).points, ("ode_modules/x" : WideText).points, ("]" : WideText).points] ++
        ("y.json" : WideText).points.map ([·])) := by
    refine .cons ⟨_, rfl, by decide⟩ (.cons trivial (.cons ⟨_, rfl, by decide⟩ ?_))
    simpa using (forall₂_takes_literal_iff ("y.json" : WideText).points [] _).2 ⟨[], .nil, rfl⟩
  have hnames : ∀ name ∈ [("node_modules" : WideText), ("x]y.json" : WideText)],
      Path.isIdle name = false := by decide
  obtain ⟨-, ⟨b, hb, hfits⟩, -⟩ := isIgnored_iff_fits ⟨.root, ["p"]⟩ hnames hforward
  have hmatched := hfits.2 ⟨_, List.mem_cons_of_mem _ List.mem_cons_self, sampleTokens, _,
    reads_sample, htakes, by decide⟩
  rw [hb, hmatched]

end ThemeView

end ThemeLint
