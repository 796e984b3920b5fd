import Mathlib.Data.List.Forall2

set_option autoImplicit false

namespace ThemeLint

section

variable {α : Type} {P : α → Prop}

def IsFirst (P : α → Prop) (as : List α) (a : α) : Prop :=
  ∃ before later, as = before ++ a :: later ∧ P a ∧ ∀ b ∈ before, ¬ P b

theorem not_isFirst_nil (a : α) : ¬ IsFirst P [] a := by
  intro h
  obtain ⟨before, later, heq, -⟩ := h
  cases before <;> cases heq

theorem isFirst_cons_of_pos {a : α} (h : P a) (as : List α) (b : α) :
    IsFirst P (a :: as) b ↔ b = a := by
  constructor
  · intro hfirst
    obtain ⟨before, later, heq, -, hbefore⟩ := hfirst
    cases before with
    | nil => exact (List.cons.inj heq).1.symm
    | cons c before =>
      rw [(List.cons.inj heq).1] at h
      exact absurd h (hbefore c List.mem_cons_self)
  · rintro rfl
    exact ⟨[], as, rfl, h, nofun⟩

theorem isFirst_cons_of_neg {a : α} (h : ¬ P a) (as : List α) (b : α) :
    IsFirst P (a :: as) b ↔ IsFirst P as b := by
  constructor
  · intro hfirst
    obtain ⟨before, later, heq, hb, hbefore⟩ := hfirst
    cases before with
    | nil =>
      rw [(List.cons.inj heq).1] at h
      exact absurd hb h
    | cons c before =>
      rw [List.forall_mem_cons] at hbefore
      exact ⟨before, later, (List.cons.inj heq).2, hb, hbefore.2⟩
  · intro hfirst
    obtain ⟨before, later, rfl, hb, hbefore⟩ := hfirst
    exact ⟨a :: before, later, rfl, hb, List.forall_mem_cons.2 ⟨h, hbefore⟩⟩

theorem exists_isFirst_or_forall (P : α → Prop) (as : List α) :
    (∃ a, IsFirst P as a) ∨ ∀ a ∈ as, ¬ P a := by
  induction as with
  | nil => exact .inr nofun
  | cons a as ih =>
    by_cases ha : P a
    · exact .inl ⟨a, (isFirst_cons_of_pos ha as a).2 rfl⟩
    · simp only [isFirst_cons_of_neg ha, List.forall_mem_cons]
      exact ih.imp_right fun hnone => ⟨ha, hnone⟩

theorem IsFirst.holds {as : List α} {a : α} (h : IsFirst P as a) : P a := by
  obtain ⟨before, later, -, ha, -⟩ := h
  exact ha

theorem IsFirst.mem {as : List α} {a : α} (h : IsFirst P as a) : a ∈ as := by
  obtain ⟨before, later, rfl, -⟩ := h
  exact List.mem_append_right _ List.mem_cons_self

end

section

variable {α β ε : Type} {f : α → Except ε β}

theorem mapM_cons_eq_ok_iff (a : α) (as : List α) (out : List β) :
    (a :: as).mapM f = .ok out ↔ ∃ b bs, f a = .ok b ∧ as.mapM f = .ok bs ∧ out = b :: bs := by
  rw [List.mapM_cons]
  cases f a with
  | error e => simp [bind, Except.bind]
  | ok b =>
    cases as.mapM f with
    | error e => simp [bind, Except.bind]
    | ok bs => simp [bind, Except.bind, pure, Except.pure, eq_comm]

theorem mapM_eq_ok_iff (as : List α) (out : List β) :
    as.mapM f = .ok out ↔ List.Forall₂ (fun a b => f a = .ok b) as out := by
  induction as generalizing out with
  | nil => simp [pure, Except.pure, eq_comm]
  | cons a as ih => simp only [mapM_cons_eq_ok_iff, ih, List.forall₂_cons_left_iff]

theorem exists_of_mapM_eq_ok {as : List α} {out : List β} (h : as.mapM f = .ok out) {a : α}
    (ha : a ∈ as) : ∃ b ∈ out, f a = .ok b := by
  induction as generalizing out with
  | nil => cases ha
  | cons a' as ih =>
    obtain ⟨b, bs, hb, hbs, rfl⟩ := (mapM_cons_eq_ok_iff a' as out).1 h
    rcases List.mem_cons.1 ha with rfl | ha
    · exact ⟨b, List.mem_cons_self, hb⟩
    · obtain ⟨b', hb', hf⟩ := ih hbs ha
      exact ⟨b', List.mem_cons_of_mem b hb', hf⟩

theorem mapM_append_eq_ok_iff (as later : List α) (out : List β) :
    (as ++ later).mapM f = .ok out ↔
      ∃ bs more, as.mapM f = .ok bs ∧ later.mapM f = .ok more ∧ out = bs ++ more := by
  rw [List.mapM_append]
  cases as.mapM f with
  | error e => simp [bind, Except.bind]
  | ok bs =>
    cases later.mapM f with
    | error e => simp [bind, Except.bind]
    | ok more => simp [bind, Except.bind, pure, Except.pure, eq_comm]

theorem mapM_eq_error_iff (as : List α) (e : ε) :
    as.mapM f = .error e ↔ ∃ a, IsFirst (fun a => ∃ e, f a = .error e) as a ∧ f a = .error e := by
  induction as with
  | nil => simp [pure, Except.pure, not_isFirst_nil]
  | cons a as ih =>
    rw [List.mapM_cons]
    cases ha : f a with
    | error other =>
      simp [isFirst_cons_of_pos (P := fun a => ∃ e, f a = .error e) ⟨other, ha⟩, ha, bind,
        Except.bind]
    | ok b =>
      have hok : ¬ ∃ e, f a = .error e := by simp [ha]
      simp only [isFirst_cons_of_neg (P := fun a => ∃ e, f a = .error e) hok, ← ih]
      cases as.mapM f <;> simp [bind, Except.bind, pure, Except.pure]

theorem mapM_eq_ok_map {g : α → β} {as : List α} (h : ∀ a ∈ as, f a = .ok (g a)) :
    as.mapM f = .ok (as.map g) := by
  induction as with
  | nil => rfl
  | cons a as ih =>
    rw [mapM_cons_eq_ok_iff]
    exact ⟨g a, as.map g, h a (by simp), ih fun b hb => h b (List.mem_cons_of_mem _ hb), rfl⟩

theorem exists_mapM_eq_ok_iff (as : List α) :
    (∃ out, as.mapM f = .ok out) ↔ ∀ a ∈ as, ∃ b, f a = .ok b := by
  induction as with
  | nil => simp [pure, Except.pure]
  | cons a as ih =>
    simp only [mapM_cons_eq_ok_iff, List.forall_mem_cons, ← ih]
    constructor
    · intro h
      obtain ⟨out, b, bs, hb, hbs, -⟩ := h
      exact ⟨⟨b, hb⟩, ⟨bs, hbs⟩⟩
    · intro h
      obtain ⟨⟨b, hb⟩, ⟨bs, hbs⟩⟩ := h
      exact ⟨b :: bs, b, bs, hb, hbs, rfl⟩

end

section

variable {α β ε : Type} {P : ε → Prop}

def FailsAs (P : ε → Prop) (x : Except ε α) : Prop := ∀ e, x = .error e → P e

theorem failsAs_ok (a : α) : FailsAs P (.ok a) := nofun

theorem failsAs_error {e : ε} (h : P e) : FailsAs P (.error e : Except ε α) := by
  intro other heq
  cases heq
  exact h

theorem FailsAs.bind {x : Except ε α} {f : α → Except ε β} (hx : FailsAs P x)
    (hf : ∀ a, FailsAs P (f a)) : FailsAs P (x.bind f) := by
  cases x with
  | error e => exact failsAs_error (hx e rfl)
  | ok a => exact hf a

theorem map_eq_error_iff (f : α → β) (x : Except ε α) (e : ε) :
    x.map f = .error e ↔ x = .error e := by
  cases x <;> simp [Except.map]

theorem failsAs_mapError {δ : Type} {x : Except δ α} {f : δ → ε}
    (h : ∀ e, x = .error e → P (f e)) : FailsAs P (x.mapError f) := by
  cases x with
  | error e => exact failsAs_error (h e rfl)
  | ok a => exact failsAs_ok a

theorem failsAs_mapM {f : α → Except ε β} {as : List α} (h : ∀ a ∈ as, FailsAs P (f a)) :
    FailsAs P (as.mapM f) := by
  induction as with
  | nil => exact failsAs_ok []
  | cons a as ih =>
    rw [List.mapM_cons]
    rw [List.forall_mem_cons] at h
    exact h.1.bind fun _ => (ih h.2).bind fun _ => failsAs_ok _

end

section

variable {α β ε : Type} {Q : α → Prop} {R : β → Prop}

def Ensures (Q : α → Prop) (x : Except ε α) : Prop := ∀ a, x = .ok a → Q a

theorem ensures_ok {a : α} (h : Q a) : Ensures Q (.ok a : Except ε α) := by
  intro b heq
  cases heq
  exact h

theorem ensures_error (e : ε) : Ensures Q (.error e : Except ε α) := nofun

theorem ensures_self (x : Except ε α) : Ensures (fun a => x = .ok a) x := fun _ h => h

theorem Ensures.bind {x : Except ε α} {f : α → Except ε β} (hx : Ensures Q x)
    (hf : ∀ a, Q a → Ensures R (f a)) : Ensures R (x.bind f) := by
  cases x with
  | error e => exact ensures_error e
  | ok a => exact hf a (hx a rfl)

theorem Ensures.mapError {δ : Type} {x : Except δ α} (hx : Ensures Q x) (f : δ → ε) :
    Ensures Q (x.mapError f) := by
  cases x with
  | error e => exact ensures_error _
  | ok a => exact ensures_ok (hx a rfl)

theorem ensures_mapM {f : α → Except ε β} {as : List α}
    (h : ∀ a ∈ as, Ensures (fun b => R b ∧ Q a) (f a)) :
    Ensures (fun bs => (∀ b ∈ bs, R b) ∧ ∀ a ∈ as, Q a) (as.mapM f) := by
  induction as with
  | nil => exact ensures_ok ⟨nofun, nofun⟩
  | cons a as ih =>
    rw [List.mapM_cons]
    rw [List.forall_mem_cons] at h
    refine h.1.bind fun b hb => (ih h.2).bind fun bs hbs => ensures_ok ?_
    exact ⟨List.forall_mem_cons.2 ⟨hb.1, hbs.1⟩, List.forall_mem_cons.2 ⟨hb.2, hbs.2⟩⟩

end

end ThemeLint
