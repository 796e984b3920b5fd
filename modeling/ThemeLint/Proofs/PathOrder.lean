import Mathlib.Data.List.Lex
import Mathlib.Data.List.Sort
import ThemeLint.Path

set_option autoImplicit false

namespace ThemeLint

namespace WideText

theorem lt_trichotomy (a b : WideText) : a < b ∨ a = b ∨ b < a := by
  have hnumbers := trichotomous_of (List.Lex fun m n : Nat => m < n)
    (a.points.map CodePoint.toNat) (b.points.map CodePoint.toNat)
  refine hnumbers.imp_right (Or.imp_left fun heq => ?_)
  have hinjective : Function.Injective CodePoint.toNat := fun _ _ => CodePoint.toNat_inj.1
  have hpoints : a.points = b.points := List.map_injective_iff.2 hinjective heq
  exact congrArg WideText.mk hpoints

instance : Std.Asymm fun a b : WideText => a < b where
  asymm _ _ h := List.lt_asymm h

instance : Std.Trichotomous fun a b : WideText => a < b where
  trichotomous a b hab hba := ((lt_trichotomy a b).resolve_left hab).resolve_right hba

instance : Trans (fun a b : WideText => a < b) (fun a b => a < b) (fun a b => a < b) where
  trans h h' := List.lt_trans h h'

end WideText

namespace Path

theorem partsLe_iff (as bs : List WideText) : partsLe as bs = true ↔ as < bs ∨ as = bs := by
  induction as generalizing bs with
  | nil => cases bs <;> simp [partsLe]
  | cons a as ih =>
    cases bs with
    | nil => simp [partsLe]
    | cons b bs =>
      simp only [partsLe, Bool.or_eq_true, Bool.and_eq_true, decide_eq_true_eq, beq_iff_eq, ih,
        List.cons_lt_cons_iff, List.cons.injEq]
      tauto

theorem le_trans (p q r : Path) (hpq : le p q = true) (hqr : le q r = true) : le p r = true := by
  unfold le at *
  rw [partsLe_iff] at *
  rcases hpq with hpq | hpq
  · rcases hqr with hqr | hqr
    · exact .inl (List.lt_trans hpq hqr)
    · exact .inl (hqr ▸ hpq)
  · rw [hpq]
    exact hqr

theorem le_total (p q : Path) : (le p q || le q p) = true := by
  unfold le
  rw [Bool.or_eq_true, partsLe_iff, partsLe_iff]
  rcases trichotomous_of (List.Lex fun a b : WideText => a < b) p.orderKey q.orderKey with
    h | h | h
  · exact .inl (.inl h)
  · exact .inl (.inr h)
  · exact .inr (.inl h)

theorem pairwise_mergeSort {ps : List Path} (h : (ps.map orderKey).Nodup) :
    (ps.mergeSort le).Pairwise fun p q => p.orderKey < q.orderKey := by
  have hsorted : (ps.mergeSort le).Pairwise fun p q => le p q = true :=
    List.pairwise_mergeSort le_trans le_total ps
  have hdistinct : (ps.mergeSort le).Pairwise fun p q => p.orderKey ≠ q.orderKey :=
    List.pairwise_map.1 (((List.mergeSort_perm ps le).map orderKey).nodup_iff.2 h)
  refine hsorted.imp₂ (fun p q hle hne => ?_) hdistinct
  exact ((partsLe_iff _ _).1 hle).resolve_right hne

theorem eq_of_mem_iff {ps qs : List Path} (hps : ps.Pairwise fun p q => p.orderKey < q.orderKey)
    (hqs : qs.Pairwise fun p q => p.orderKey < q.orderKey) (h : ∀ p, p ∈ ps ↔ p ∈ qs) : ps = qs := by
  have hasymm : Std.Asymm fun p q : Path => p.orderKey < q.orderKey :=
    ⟨fun p q hpq => asymm_of (List.Lex fun a b : WideText => a < b) hpq⟩
  exact hps.eq_of_mem_iff hqs h

end Path

end ThemeLint
