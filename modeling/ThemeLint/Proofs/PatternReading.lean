import Mathlib.Data.List.Basic
import Mathlib.Data.List.TakeWhile
import ThemeLint.Glob

set_option autoImplicit false

namespace ThemeLint.Glob

/-- The ranges of a set, read from the left: a hyphen between two points makes a range of them, and
every other point stands for itself. -/
def spans : List CodePoint → List (CodePoint × CodePoint)
  | a :: .char '-' :: b :: rest => (a, b) :: spans rest
  | a :: rest => (a, a) :: spans rest
  | [] => []

def onFirst (c : CodePoint) : List (List CodePoint) → List (List CodePoint)
  | [] => [[c]]
  | p :: ps => (c :: p) :: ps

theorem cut_cons (needed fresh : Nat) (c : CodePoint) (s : List CodePoint)
    (h : ¬ (c = .char '-' ∧ needed ≤ fresh)) :
    cut needed fresh (c :: s) = onFirst c (cut needed (fresh + 1) s) := by
  rw [cut, if_neg h]
  cases cut needed (fresh + 1) s <;> rfl

/-- Only the points that are still missing before a cut count. -/
theorem cut_succ_succ (needed fresh : Nat) (s : List CodePoint) :
    cut (needed + 1) (fresh + 1) s = cut needed fresh s := by
  induction s generalizing fresh with
  | nil => rfl
  | cons c s ih =>
    simp only [cut, Nat.add_le_add_iff_right, ih]

theorem cut_one_succ (fresh : Nat) (s : List CodePoint) :
    cut 1 (fresh + 1) s = cut 1 1 s := by
  induction s generalizing fresh with
  | nil => rfl
  | cons c s ih =>
    simp only [cut, ih, Nat.le_add_left, Nat.le_refl]

theorem cut_one_cons (c : CodePoint) (s : List CodePoint) :
    cut 1 0 (c :: s) = onFirst c (cut 1 1 s) := cut_cons 1 0 c s (by simp)

theorem cut_one_range (a b : CodePoint) (s : List CodePoint) :
    cut 1 0 (a :: .char '-' :: b :: s) = [a] :: onFirst b (cut 1 0 s) := by
  have hrest : cut 2 0 (b :: s) = onFirst b (cut 1 0 s) := by
    rw [cut_cons 2 0 b s (by simp), cut_succ_succ]
  rw [cut_one_cons, cut, if_pos ⟨rfl, Nat.le_refl 1⟩, hrest]
  rfl

theorem cut_one_cons_cons (a c : CodePoint) (s : List CodePoint) (h : c ≠ .char '-') :
    cut 1 0 (a :: c :: s) = onFirst a (cut 1 0 (c :: s)) := by
  rw [cut_one_cons, cut_cons 1 1 c s (by simp [h]), cut_one_succ, cut_one_cons]

theorem closeCut_onFirst (c : CodePoint) (ps : List (List CodePoint)) :
    closeCut (onFirst c ps) = onFirst c (closeCut ps) := by
  unfold onFirst
  cases ps with
  | nil => rfl
  | cons p ps =>
    rcases ps with - | ⟨- | ⟨d, q⟩, - | ⟨r, qs⟩⟩ <;> rfl

theorem rangesOf_onFirst (c : CodePoint) {p : List CodePoint} (h : p ≠ [])
    (ps : List (List CodePoint)) :
    rangesOf (onFirst c (p :: ps)) = (c, c) :: rangesOf (p :: ps) := by
  obtain ⟨a, hlast⟩ : ∃ a, p.getLast? = some a := ⟨_, List.getLast?_eq_getLast_of_ne_nil h⟩
  have hlast' : (c :: p).getLast? = some a := by simp [List.getLast?_cons, hlast]
  rcases ps with - | ⟨- | ⟨b, q⟩, ps⟩
  · simp [onFirst, rangesOf]
  · simp [onFirst, rangesOf]
  · simp [onFirst, rangesOf, hlast, hlast', List.dropLast_cons_of_ne_nil h]

theorem mergeBackward_onFirst (c : CodePoint) {p : List CodePoint} (h : p ≠ [])
    (ps : List (List CodePoint)) :
    mergeBackward (onFirst c (p :: ps)) = onFirst c (mergeBackward (p :: ps)) := by
  obtain ⟨a, hlast⟩ : ∃ a, p.getLast? = some a := ⟨_, List.getLast?_eq_getLast_of_ne_nil h⟩
  have hlast' : (c :: p).getLast? = some a := by simp [List.getLast?_cons, hlast]
  simp only [onFirst, mergeBackward, hlast, hlast']
  rcases mergeBackward ps with - | ⟨- | ⟨b, q⟩, qs⟩
  · rfl
  · rfl
  · simp only [List.dropLast_cons_of_ne_nil h]
    split <;> rfl

/-- The pieces of a set between the hyphens that make ranges. -/
def piecesOf (s : List CodePoint) : List (List CodePoint) := closeCut (cut 1 0 s)

theorem piecesOf_singleton (a : CodePoint) : piecesOf [a] = [[a]] := by
  rw [piecesOf, cut_one_cons]
  rfl

theorem piecesOf_hyphen (a : CodePoint) : piecesOf [a, .char '-'] = [[a, .char '-']] := by
  rw [piecesOf, cut_one_cons]
  rfl

theorem piecesOf_range (a b : CodePoint) (s : List CodePoint) :
    piecesOf (a :: .char '-' :: b :: s) = [a] :: onFirst b (piecesOf s) := by
  rw [piecesOf, cut_one_range, piecesOf, ← closeCut_onFirst]
  cases cut 1 0 s <;> rfl

theorem piecesOf_cons_cons (a c : CodePoint) (s : List CodePoint) (h : c ≠ .char '-') :
    piecesOf (a :: c :: s) = onFirst a (piecesOf (c :: s)) := by
  rw [piecesOf, cut_one_cons_cons a c s h, closeCut_onFirst, piecesOf]

theorem exists_piecesOf_cons (c : CodePoint) (s : List CodePoint) :
    ∃ p ps, piecesOf (c :: s) = (c :: p) :: ps := by
  rw [piecesOf, cut_one_cons, closeCut_onFirst]
  cases closeCut (cut 1 1 s) with
  | nil => exact ⟨[], [], rfl⟩
  | cons p ps => exact ⟨p, ps, rfl⟩

theorem rangesOf_piecesOf (s : List CodePoint) : rangesOf (piecesOf s) = spans s := by
  fun_induction spans s with
  | case1 a b rest ih =>
    rw [piecesOf_range, ← ih]
    cases piecesOf rest <;> simp [onFirst, rangesOf]
  | case2 a rest hrange ih =>
    rcases rest with - | ⟨c, rest⟩
    · simp [piecesOf_singleton, rangesOf, spans]
    · by_cases hc : c = .char '-'
      · subst hc
        cases rest with
        | nil => simp [piecesOf_hyphen, rangesOf, spans]
        | cons b rest => exact absurd rfl (hrange b rest)
      · obtain ⟨p, ps, hpieces⟩ := exists_piecesOf_cons c rest
        rw [piecesOf_cons_cons a c rest hc, ← ih, hpieces, rangesOf_onFirst a (by simp)]
  | case3 => simp [piecesOf, cut, closeCut, rangesOf]

def AreForward (ranges : List (CodePoint × CodePoint)) : Prop :=
  ∀ r ∈ ranges, r.1.toNat ≤ r.2.toNat

instance (ranges : List (CodePoint × CodePoint)) : Decidable (AreForward ranges) :=
  inferInstanceAs (Decidable (∀ r ∈ ranges, _))

theorem mergeBackward_piecesOf {s : List CodePoint} (h : AreForward (spans s)) :
    mergeBackward (piecesOf s) = piecesOf s := by
  fun_induction spans s with
  | case1 a b rest ih =>
    obtain ⟨hab, hrest⟩ := List.forall_mem_cons.1 h
    have hb : mergeBackward (onFirst b (piecesOf rest)) = onFirst b (piecesOf rest) := by
      cases rest with
      | nil => rfl
      | cons c rest =>
        obtain ⟨p, ps, hpieces⟩ := exists_piecesOf_cons c rest
        rw [hpieces, mergeBackward_onFirst b (by simp), ← hpieces, ih hrest]
    rw [piecesOf_range, mergeBackward, hb]
    cases piecesOf rest <;> simp [onFirst, Nat.not_lt.2 hab]
  | case2 a rest hrange ih =>
    obtain ⟨-, hrest⟩ := List.forall_mem_cons.1 h
    rcases rest with - | ⟨c, rest⟩
    · rw [piecesOf_singleton]
      rfl
    · by_cases hc : c = .char '-'
      · subst hc
        cases rest with
        | nil =>
          rw [piecesOf_hyphen]
          rfl
        | cons b rest => exact absurd rfl (hrange b rest)
      · obtain ⟨p, ps, hpieces⟩ := exists_piecesOf_cons c rest
        rw [piecesOf_cons_cons a c rest hc, hpieces, mergeBackward_onFirst a (by simp), ← hpieces,
          ih hrest]
  | case3 => rfl

/-- What stands in a bracket that is closed: at least one point, of which only the first may be a
closing bracket. The mark of negation is none of them. -/
structure IsInside (negated : Bool) (inside : List CodePoint) : Prop where
  nonempty : inside ≠ []
  closed : CodePoint.char ']' ∉ inside.tail
  unmarked : negated = false → inside.head? ≠ some (.char '!')

def mark (negated : Bool) : List CodePoint := if negated then [.char '!'] else []

theorem bracketOf_eq {negated : Bool} {inside : List CodePoint} (h : IsInside negated inside)
    (hforward : AreForward (spans inside)) :
    bracketOf (mark negated ++ inside) = ⟨negated, spans inside⟩ := by
  obtain ⟨hne, -, hmark⟩ := h
  obtain ⟨a, rest, rfl⟩ := List.exists_cons_of_ne_nil hne
  obtain ⟨p, ps, hpieces⟩ := exists_piecesOf_cons a rest
  have hmerged := mergeBackward_piecesOf hforward
  have hranges := rangesOf_piecesOf (a :: rest)
  cases negated with
  | true =>
    -- The mark is one of the two points that a cut wants before it; behind it the cuts are the same.
    have hcut : closeCut (cut 2 0 (.char '!' :: a :: rest)) =
        onFirst (.char '!') (piecesOf (a :: rest)) := by
      rw [cut_cons 2 0 _ _ (by simp), cut_succ_succ, closeCut_onFirst, piecesOf]
    rw [hpieces] at hcut hmerged hranges
    have hmerged' : mergeBackward (closeCut (cut 2 0 (.char '!' :: a :: rest))) =
        (.char '!' :: a :: p) :: ps := by
      rw [hcut, mergeBackward_onFirst _ (by simp), hmerged]
      rfl
    simp [bracketOf, mark, hmerged', hranges]
  | false =>
    have ha : a ≠ .char '!' := by simpa using hmark rfl
    have hmerged' : mergeBackward (closeCut (cut 1 0 (a :: rest))) = (a :: p) :: ps := by
      rw [← hpieces, ← hmerged, piecesOf]
    rw [hpieces] at hranges
    simp [bracketOf, mark, ha, hmerged', hranges]

theorem takeWhile_ne_eq_iff (x : CodePoint) (s front rest : List CodePoint) :
    s.takeWhile (· ≠ x) = front ∧ (∃ y, s.drop front.length = y :: rest) ↔
      x ∉ front ∧ s = front ++ x :: rest := by
  constructor
  · rintro ⟨rfl, y, hdrop⟩
    have hrest : s.dropWhile (· ≠ x) = y :: rest := by
      have hsplit := @List.drop_left _ (s.takeWhile (· ≠ x)) (s.dropWhile (· ≠ x))
      rwa [List.takeWhile_append_dropWhile, hdrop, eq_comm] at hsplit
    obtain rfl : y = x := by
      have hstop := List.head_dropWhile_not (fun a => decide (a ≠ x)) (by rw [hrest]; simp)
      simp only [hrest, List.head_cons] at hstop
      simpa using hstop
    refine ⟨fun hmem => by simpa using List.mem_takeWhile_imp hmem, ?_⟩
    rw [← hrest, List.takeWhile_append_dropWhile]
  · rintro ⟨hfront, rfl⟩
    have hkept : ∀ a ∈ front, decide (a ≠ x) = true := fun a ha =>
      decide_eq_true fun heq => hfront (heq ▸ ha)
    refine ⟨?_, x, List.drop_left⟩
    rw [List.takeWhile_append_of_pos hkept, List.takeWhile_cons_of_neg (by simp), List.append_nil]

/-- The points behind an opening bracket that are inside of it even if they would close it. -/
def leadOf : List CodePoint → Nat
  | .char '!' :: .char ']' :: _ => 2
  | .char '!' :: _ => 1
  | .char ']' :: _ => 1
  | _ => 0

theorem bracketAt?_eq_some_iff_lead (cs whole rest : List CodePoint) :
    bracketAt? cs = some (whole, rest) ↔ ∃ front, whole = cs.take (leadOf cs) ++ front ∧
      CodePoint.char ']' ∉ front ∧ cs.drop (leadOf cs) = front ++ .char ']' :: rest := by
  simp only [← takeWhile_ne_eq_iff]
  have heq : bracketAt? cs = ((cs.drop (leadOf cs)).drop
      ((cs.drop (leadOf cs)).takeWhile (· ≠ CodePoint.char ']')).length).tail?.map fun rest =>
        (cs.take (leadOf cs) ++ (cs.drop (leadOf cs)).takeWhile (· ≠ CodePoint.char ']'), rest) := by
    generalize hout : bracketAt? cs = out
    unfold bracketAt? at hout
    simp only at hout
    split at hout
    next hdrop =>
      rw [← hout]
      exact (congrArg (fun l : List CodePoint => l.tail?.map _) hdrop).symm
    next hdrop =>
      rw [← hout]
      exact (congrArg (fun l : List CodePoint => l.tail?.map _) hdrop).symm
  rw [heq]
  generalize cs.drop (leadOf cs) = tail
  generalize hfront : tail.takeWhile (· ≠ CodePoint.char ']') = front
  cases hdrop : tail.drop front.length with
  | nil =>
    simp only [List.tail?_nil, Option.map_none, reduceCtorEq, false_iff]
    rintro ⟨front', -, hfront', y, hy⟩
    rw [← hfront', hdrop] at hy
    cases hy
  | cons y behind =>
    simp only [List.tail?_cons, Option.map_some, Option.some.injEq, Prod.mk.injEq]
    constructor
    · rintro ⟨rfl, rfl⟩
      exact ⟨front, rfl, rfl, y, hdrop⟩
    · rintro ⟨front', rfl, rfl, z, hz⟩
      rw [hdrop] at hz
      exact ⟨rfl, (List.cons.inj hz).2⟩

theorem leadOf_cases (cs : List CodePoint) :
    (∃ s, cs = .char '!' :: .char ']' :: s ∧ leadOf cs = 2) ∨
    (∃ s, cs = .char '!' :: s ∧ s.head? ≠ some (.char ']') ∧ leadOf cs = 1) ∨
    (∃ s, cs = .char ']' :: s ∧ leadOf cs = 1) ∨
    (cs.head? ≠ some (.char '!') ∧ cs.head? ≠ some (.char ']') ∧ leadOf cs = 0) := by
  unfold leadOf
  split
  next s => exact .inl ⟨s, rfl, rfl⟩
  next s hs =>
    refine .inr (.inl ⟨s, rfl, fun hhead => ?_, rfl⟩)
    obtain ⟨rest, rfl⟩ := List.head?_eq_some_iff.1 hhead
    exact hs rest rfl
  next s => exact .inr (.inr (.inl ⟨s, rfl, rfl⟩))
  next hmark hclosing =>
    refine .inr (.inr (.inr ⟨fun hhead => ?_, fun hhead => ?_, rfl⟩))
    · obtain ⟨rest, rfl⟩ := List.head?_eq_some_iff.1 hhead
      exact hmark rest rfl
    · obtain ⟨rest, rfl⟩ := List.head?_eq_some_iff.1 hhead
      exact hclosing rest rfl

/-- A bracket is closed where its inside ends, and it is taken with its mark. -/
theorem bracketAt?_eq_some_iff (cs whole rest : List CodePoint) :
    bracketAt? cs = some (whole, rest) ↔
      ∃ negated inside, IsInside negated inside ∧ whole = mark negated ++ inside ∧
        cs = whole ++ .char ']' :: rest := by
  rw [bracketAt?_eq_some_iff_lead]
  constructor
  · rintro ⟨front, hwhole, hfront, hdrop⟩
    have hcs : cs = whole ++ .char ']' :: rest := by
      rw [hwhole, List.append_assoc, ← hdrop, List.take_append_drop]
    have htail : CodePoint.char ']' ∉ front.tail := fun h => hfront (List.mem_of_mem_tail h)
    rcases leadOf_cases cs with
      ⟨s, rfl, hlead⟩ | ⟨s, rfl, hs, hlead⟩ | ⟨s, rfl, hlead⟩ | ⟨hmark, hs, hlead⟩
    all_goals
      rw [hlead] at hwhole hdrop
    · exact ⟨true, .char ']' :: front, ⟨by simp, hfront, by simp⟩, hwhole, hcs⟩
    · refine ⟨true, front, ⟨?_, htail, by simp⟩, hwhole, hcs⟩
      rintro rfl
      exact hs (by rw [show s = _ from hdrop]; rfl)
    · exact ⟨false, .char ']' :: front, ⟨by simp, hfront, by simp⟩, hwhole, hcs⟩
    · rw [List.drop_zero] at hdrop
      cases front with
      | nil => exact absurd (by rw [hdrop]; rfl) hs
      | cons a front =>
        refine ⟨false, a :: front, ⟨by simp, htail, fun _ => ?_⟩, hwhole, hcs⟩
        rw [hdrop] at hmark
        exact hmark
  · rintro ⟨negated, inside, ⟨hne, hclosed, hmark⟩, rfl, rfl⟩
    obtain ⟨a, more, rfl⟩ := List.exists_cons_of_ne_nil hne
    have hkept (ha : a ≠ .char ']') : CodePoint.char ']' ∉ a :: more :=
      List.not_mem_cons_of_ne_of_not_mem (Ne.symm ha) hclosed
    rcases leadOf_cases (mark negated ++ a :: more ++ .char ']' :: rest) with
      ⟨s, heq, hlead⟩ | ⟨s, heq, hs, hlead⟩ | ⟨s, heq, hlead⟩ | ⟨hfirst, hs, hlead⟩
    all_goals
      rw [hlead]
      cases negated
    · exact absurd (congrArg List.head? heq) (hmark rfl)
    · obtain ⟨rfl, -⟩ := List.cons.inj (List.cons.inj heq).2
      exact ⟨more, rfl, hclosed, rfl⟩
    · exact absurd (congrArg List.head? heq) (hmark rfl)
    · obtain rfl := (List.cons.inj heq).2
      exact ⟨a :: more, rfl, hkept fun ha => hs (congrArg some ha), rfl⟩
    · obtain ⟨rfl, -⟩ := List.cons.inj heq
      exact ⟨more, rfl, hclosed, rfl⟩
    · exact absurd (List.cons.inj heq).1 (by decide)
    · exact ⟨a :: more, rfl, hkept fun ha => hs (congrArg some ha), rfl⟩
    · exact absurd rfl hfirst

/-- How a pattern is read, token by token from the left. A bracket opens a set where one is closed
behind it, and stands for itself where none is. -/
inductive Reads : List CodePoint → List Token → Prop where
  | nil : Reads [] []
  | any {p : List CodePoint} {ts : List Token} : Reads p ts → Reads (.char '*' :: p) (.any :: ts)
  | one {p : List CodePoint} {ts : List Token} : Reads p ts → Reads (.char '?' :: p) (.one :: ts)
  | set {p inside rest : List CodePoint} {negated : Bool} {ts : List Token} :
      IsInside negated inside → p = mark negated ++ inside ++ .char ']' :: rest → Reads rest ts →
      Reads (.char '[' :: p) (.bracket ⟨negated, spans inside⟩ :: ts)
  | opening {p : List CodePoint} {ts : List Token} :
      (∀ negated inside rest, IsInside negated inside →
        p ≠ mark negated ++ inside ++ .char ']' :: rest) →
      Reads p ts → Reads (.char '[' :: p) (.char (.char '[') :: ts)
  | itself {c : CodePoint} {p : List CodePoint} {ts : List Token} :
      c ≠ .char '*' → c ≠ .char '?' → c ≠ .char '[' → Reads p ts → Reads (c :: p) (.char c :: ts)

theorem mark_append_inj {negated negated' : Bool} {inside inside' : List CodePoint}
    (h : IsInside negated inside) (h' : IsInside negated' inside')
    (heq : mark negated ++ inside = mark negated' ++ inside') :
    negated = negated' ∧ inside = inside' := by
  cases negated <;> cases negated'
  · exact ⟨rfl, heq⟩
  · exact absurd (congrArg List.head? heq) (h.unmarked rfl)
  · exact absurd (congrArg List.head? heq.symm) (h'.unmarked rfl)
  · exact ⟨rfl, (List.cons.inj heq).2⟩

theorem Reads.unique {p : List CodePoint} {ts ts' : List Token} (h : Reads p ts)
    (h' : Reads p ts') : ts = ts' := by
  -- By what is read first, since each way to read it shuts out the others.
  induction h generalizing ts' with
  | nil =>
    cases h'
    rfl
  | any _ ih =>
    cases h' with
    | any h' => rw [ih h']
    | itself hstar => exact absurd rfl hstar
  | one _ ih =>
    cases h' with
    | one h' => rw [ih h']
    | itself _ hone => exact absurd rfl hone
  | set hinside hp _ ih =>
    cases h' with
    | set hinside' hp' h' =>
      have hat := (bracketAt?_eq_some_iff _ _ _).2 ⟨_, _, hinside, rfl, hp⟩
      have hat' := (bracketAt?_eq_some_iff _ _ _).2 ⟨_, _, hinside', rfl, hp'⟩
      obtain ⟨hwhole, rfl⟩ := Prod.mk.inj (Option.some.inj (hat.symm.trans hat'))
      obtain ⟨rfl, rfl⟩ := mark_append_inj hinside hinside' hwhole
      rw [ih h']
    | opening hopen => exact absurd hp (hopen _ _ _ hinside)
    | itself _ _ hset => exact absurd rfl hset
  | opening hopen _ ih =>
    cases h' with
    | set hinside' hp' => exact absurd hp' (hopen _ _ _ hinside')
    | opening _ h' => rw [ih h']
    | itself _ _ hset => exact absurd rfl hset
  | itself hstar hone hset _ ih =>
    cases h' with
    | any => exact absurd rfl hstar
    | one => exact absurd rfl hone
    | set => exact absurd rfl hset
    | opening => exact absurd rfl hset
    | itself _ _ _ h' => rw [ih h']

def SetsAreForward (ts : List Token) : Prop :=
  ∀ set, Token.bracket set ∈ ts → AreForward set.ranges

theorem SetsAreForward.tail {t : Token} {ts : List Token} (h : SetsAreForward (t :: ts)) :
    SetsAreForward ts := fun set hset => h set (List.mem_cons_of_mem t hset)

/-- Every pattern can be read, and where no range runs backwards its tokens are what is read. -/
theorem exists_reads (p : List CodePoint) :
    ∃ ts, Reads p ts ∧ (SetsAreForward ts → tokens p = ts) := by
  fun_induction tokens p with
  | case1 => exact ⟨[], .nil, fun _ => rfl⟩
  | case2 p ih =>
    obtain ⟨ts, hreads, htokens⟩ := ih
    exact ⟨_, .any hreads, fun h => by rw [htokens h.tail]⟩
  | case3 p ih =>
    obtain ⟨ts, hreads, htokens⟩ := ih
    exact ⟨_, .one hreads, fun h => by rw [htokens h.tail]⟩
  | case4 p inside rest hat ih =>
    obtain ⟨ts, hreads, htokens⟩ := ih
    obtain ⟨negated, inside, hinside, rfl, hp⟩ := (bracketAt?_eq_some_iff _ _ _).1 hat
    refine ⟨_, .set hinside hp hreads, fun h => ?_⟩
    rw [htokens h.tail, bracketOf_eq hinside (h _ List.mem_cons_self)]
  | case5 p hat ih =>
    obtain ⟨ts, hreads, htokens⟩ := ih
    refine ⟨_, .opening (fun negated inside rest hinside hp => ?_) hreads, fun h => by
      rw [htokens h.tail]⟩
    rw [(bracketAt?_eq_some_iff _ _ _).2 ⟨_, _, hinside, rfl, hp⟩] at hat
    cases hat
  | case6 c p hstar hone hset ih =>
    obtain ⟨ts, hreads, htokens⟩ := ih
    exact ⟨_, .itself hstar hone hset hreads, fun h => by rw [htokens h.tail]⟩

def IsLiteral (c : CodePoint) : Prop := c ≠ .char '*' ∧ c ≠ .char '?' ∧ c ≠ .char '['

instance (c : CodePoint) : Decidable (IsLiteral c) := inferInstanceAs (Decidable (_ ∧ _))

theorem Reads.literal {p : List CodePoint} {ts : List Token} (h : Reads p ts) {s : List CodePoint}
    (hs : ∀ c ∈ s, IsLiteral c) : Reads (s ++ p) (s.map Token.char ++ ts) := by
  induction s with
  | nil => exact h
  | cons c s ih =>
    obtain ⟨⟨hstar, hone, hset⟩, hs⟩ := List.forall_mem_cons.1 hs
    exact .itself hstar hone hset (ih hs)

end ThemeLint.Glob
