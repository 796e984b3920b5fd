set_option autoImplicit false

namespace ThemeLint.Text

/-- The pieces of a list between the members equal to `sep`: one more than there are such members. -/
def pieces {α : Type} [DecidableEq α] (sep : α) : List α → List (List α)
  | [] => [[]]
  | a :: as =>
    if a = sep then [] :: pieces sep as
    else match pieces sep as with
      | [] => [[a]]
      | p :: ps => (a :: p) :: ps

theorem pieces_ne_nil {α : Type} [DecidableEq α] (sep : α) (as : List α) : pieces sep as ≠ [] := by
  cases as with
  | nil => simp [pieces]
  | cons a as =>
    simp only [pieces]
    split
    · simp
    · split <;> simp

theorem pieces_of_notMem {α : Type} [DecidableEq α] {sep : α} {as : List α} (h : sep ∉ as) :
    pieces sep as = [as] := by
  induction as with
  | nil => rfl
  | cons a as ih =>
    rw [List.mem_cons, not_or] at h
    rw [pieces, if_neg (Ne.symm h.1), ih h.2]

theorem pieces_append_cons {α : Type} [DecidableEq α] (sep : α) (as bs : List α) :
    pieces sep (as ++ sep :: bs) = pieces sep as ++ pieces sep bs := by
  induction as with
  | nil => simp [pieces]
  | cons a as ih =>
    rw [List.cons_append, pieces, pieces, ih]
    split
    · rfl
    · cases h : pieces sep as with
      | nil => exact absurd h (pieces_ne_nil sep as)
      | cons p ps => rfl

def joinPieces {α : Type} (sep : α) : List (List α) → List α
  | [] => []
  | [p] => p
  | p :: ps => p ++ sep :: joinPieces sep ps

theorem joinPieces_cons {α : Type} (sep : α) (p : List α) {ps : List (List α)} (h : ps ≠ []) :
    joinPieces sep (p :: ps) = p ++ sep :: joinPieces sep ps := by
  cases ps with
  | nil => exact absurd rfl h
  | cons q qs => rfl

theorem joinPieces_eq_intercalate {α : Type} (sep : α) (ps : List (List α)) :
    joinPieces sep ps = [sep].intercalate ps := by
  induction ps with
  | nil => rfl
  | cons p ps ih =>
    cases ps with
    | nil => simp [joinPieces]
    | cons q qs =>
      rw [joinPieces_cons sep p (List.cons_ne_nil q qs), ih]
      simp [List.intercalate]

theorem joinPieces_pieces {α : Type} [DecidableEq α] (sep : α) (as : List α) :
    joinPieces sep (pieces sep as) = as := by
  induction as with
  | nil => rfl
  | cons a as ih =>
    simp only [pieces]
    split
    next h => rw [joinPieces_cons sep [] (pieces_ne_nil sep as), ih, h]; rfl
    next h =>
      split
      next hp => exact absurd hp (pieces_ne_nil sep as)
      next p ps hp =>
        rw [hp] at ih
        cases ps with
        | nil => simpa [joinPieces] using ih
        | cons q qs => simpa [joinPieces] using ih

def unifyLineEnds : List Char → List Char
  | [] => []
  | '\r' :: '\n' :: s => '\n' :: unifyLineEnds s
  | c :: s => (if c = '\r' then '\n' else c) :: unifyLineEnds s

def lines (s : String) : List String :=
  (pieces '\n' s.toList).map String.ofList

end ThemeLint.Text
