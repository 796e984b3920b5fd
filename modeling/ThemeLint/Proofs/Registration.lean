import ThemeLint.Plugin
import Mathlib.Data.List.Nodup

set_option autoImplicit false

namespace ThemeLint

namespace ClassTable

variable (t : ClassTable) (id : ClassId) (name : String)

theorem get?_setName (other : ClassId) :
    (t.setName id name).get? other =
      (t.get? other).map fun c => if other = id then { c with name := some name } else c := by
  simp only [get?, setName, List.getElem?_modify]
  by_cases h : other = id
  · simp [h]
  · simp [h, Ne.symm h]

@[simp] theorem length_setName : (t.setName id name).classes.length = t.classes.length :=
  List.length_modify _ _ _

variable {t id name} {c : CheckClass}

theorem nameOf_of_own (hget : t.get? id = some c) (hname : c.name = some name) :
    t.nameOf id = name := by
  simp [nameOf, inherited, hget, hname]

theorem setName_of_own (hget : t.get? id = some c) (hname : c.name = some name) :
    t.setName id name = t := by
  refine congrArg ClassTable.mk (List.ext_getElem? fun other => ?_)
  have h := t.get?_setName id name other
  by_cases heq : other = id
  · subst heq
    rw [hget, Option.map_some, if_pos rfl, ← hname] at h
    exact h.trans hget.symm
  · simp only [if_neg heq, Option.map_id'] at h
    exact h

theorem make_name {check : Check} (h : t.make id = .ok check) : check.name = t.nameOf id := by
  unfold make at h
  split at h
  · cases h
  · obtain rfl := Except.ok.inj h
    rfl

theorem make_analyse {check : Check} (h : t.make id = .ok check) {analyse : Analyse}
    (hanalyse : t.inherited CheckClass.analyse id = some analyse) :
    check.analyse = analyse check.name check.severity := by
  unfold make at h
  split at h
  · cases h
  · obtain rfl := Except.ok.inj h
    simp only [hanalyse]

end ClassTable

namespace Registry

variable {r next : Registry} {id : ClassId} {name : String}

/-- Every name is bound once, and to a class that has this name itself. Only a class without a title
is bound to the empty name. -/
structure Consistent (r : Registry) : Prop where
  nodup : r.names.Nodup
  own : ∀ b ∈ r.bindings, ∃ c, r.table.get? b.2 = some c ∧ c.name = some b.1 ∧
    (b.1 = "" → c.title = "")

theorem mem_names (h : (name, id) ∈ r.bindings) : name ∈ r.names :=
  List.mem_map.2 ⟨(name, id), h, rfl⟩

theorem find?_eq_none_iff : r.find? name = none ↔ name ∉ r.names := by
  simp only [find?, List.lookup_eq_none_iff, names, List.mem_map, not_exists, not_and, bne_iff_ne]
  exact forall₂_congr fun b _ => ne_comm

theorem make_eq_error_iff (r : Registry) (name : String) (failure : Failure) :
    r.make name = .error failure ↔
      (name ∉ r.names ∧ failure = .unregistered name) ∨
      ∃ id, r.find? name = some id ∧ r.table.inherited CheckClass.trouble id = some failure := by
  rw [← find?_eq_none_iff, make]
  cases hfind : r.find? name with
  | none => simp [eq_comm]
  | some id =>
    unfold ClassTable.make
    cases htrouble : r.table.inherited CheckClass.trouble id <;> simp [htrouble]

theorem mem_bindings_of_find? (h : r.find? name = some id) : (name, id) ∈ r.bindings := by
  obtain ⟨before, later, heq, -⟩ := List.lookup_eq_some_iff.1 h
  simp [heq]

namespace Consistent

theorem find?_of_mem (h : r.Consistent) (hmem : (name, id) ∈ r.bindings) :
    r.find? name = some id := by
  obtain ⟨before, later, heq⟩ := List.append_of_mem hmem
  refine List.lookup_eq_some_iff.2 ⟨before, later, heq, fun b hb => ?_⟩
  have hnodup := h.nodup
  rw [names, heq, List.map_append, List.map_cons] at hnodup
  have hne := (List.nodup_append.1 hnodup).2.2 b.1 (List.mem_map_of_mem hb) name List.mem_cons_self
  simpa using hne.symm

theorem nameFor_of_mem (h : r.Consistent) (hmem : (name, id) ∈ r.bindings) :
    r.nameFor id = name := by
  obtain ⟨c, hget, hname, htitle⟩ := h.own _ hmem
  simp only [nameFor, ClassTable.nameOf_of_own hget hname]
  split
  next hempty => simp [ClassTable.titleOf, hget, htitle hempty, hempty]
  next => rfl

theorem name_unique (h : r.Consistent) {n m : String} (hn : (n, id) ∈ r.bindings)
    (hm : (m, id) ∈ r.bindings) : n = m :=
  (h.nameFor_of_mem hn).symm.trans (h.nameFor_of_mem hm)

end Consistent

/-- The registry with a class bound, at the end, to the name that it gets. -/
def adding (r : Registry) (id : ClassId) : Registry :=
  { r with
    table := r.table.setName id (r.nameFor id)
    bindings := r.bindings ++ [(r.nameFor id, id)] }

theorem register_of_other {other : ClassId} (hfind : r.find? (r.nameFor id) = some other)
    (hne : other ≠ id) : r.register id = .error (.nameTaken (r.nameFor id)) := by
  simp only [register, hfind, if_neg hne]

/-- All that registering a class can come to: no new binding, one at the end, or a refusal. -/
theorem register_cases (r : Registry) (id : ClassId) :
    (r.find? (r.nameFor id) = some id ∧ r.register id =
      .ok ({ r with table := r.table.setName id (r.nameFor id) }, r.nameFor id)) ∨
    (r.nameFor id ∉ r.names ∧ r.register id = .ok (r.adding id, r.nameFor id)) ∨
    (∃ other, other ≠ id ∧ r.find? (r.nameFor id) = some other ∧
      r.register id = .error (.nameTaken (r.nameFor id))) := by
  cases hfind : r.find? (r.nameFor id) with
  | none =>
    have hfree := find?_eq_none_iff.1 hfind
    exact .inr (.inl ⟨hfree, by simp only [register, hfind, adding]⟩)
  | some other =>
    by_cases heq : other = id
    · subst heq
      exact .inl ⟨rfl, by simp only [register, hfind, if_pos]⟩
    · exact .inr (.inr ⟨other, heq, rfl, register_of_other hfind heq⟩)

theorem Consistent.register_of_mem (h : r.Consistent) (hmem : (name, id) ∈ r.bindings) :
    r.register id = .ok (r, name) := by
  obtain ⟨c, hget, hname, -⟩ := h.own _ hmem
  simp only [register, h.nameFor_of_mem hmem, h.find?_of_mem hmem, if_pos,
    ClassTable.setName_of_own hget hname]

theorem nodup_adding (h : r.names.Nodup) (hfree : r.nameFor id ∉ r.names) :
    (r.adding id).names.Nodup := by
  rw [names, adding, List.map_append, List.nodup_append]
  refine ⟨h, List.nodup_singleton _, fun n hn m hm => ?_⟩
  obtain rfl : m = r.nameFor id := by simpa using hm
  exact fun heq => hfree (heq ▸ hn)

theorem Consistent.adding (h : r.Consistent) (hid : id < r.table.classes.length)
    (hfree : r.nameFor id ∉ r.names) : (r.adding id).Consistent where
  nodup := nodup_adding h.nodup hfree
  own := by
    intro b hb
    obtain ⟨c, hc⟩ : ∃ c, r.table.get? id = some c := ⟨_, List.getElem?_eq_getElem hid⟩
    rcases List.mem_append.1 hb with hold | hnew
    · obtain ⟨d, hget, hname, htitle⟩ := h.own b hold
      -- A class that was bound before had its name already, so it is not the new one.
      have hne : b.2 ≠ id := by
        intro heq
        have hname := h.nameFor_of_mem hold
        rw [heq] at hname
        exact hfree (hname ▸ mem_names hold)
      refine ⟨d, ?_, hname, htitle⟩
      rw [Registry.adding, ClassTable.get?_setName, hget, Option.map_some, if_neg hne]
    · obtain rfl : b = (r.nameFor id, id) := by simpa using hnew
      refine ⟨_, (ClassTable.get?_setName _ _ _ _).trans (congrArg _ hc), by simp, fun hempty => ?_⟩
      simp only [nameFor] at hempty
      split at hempty
      next => simpa [ClassTable.titleOf, hc] using hempty
      next hne => exact absurd hempty hne

theorem Consistent.unregister (h : r.Consistent) (name : String) :
    (r.unregister name).Consistent where
  nodup := h.nodup.sublist (List.Sublist.map _ List.filter_sublist)
  own := fun b hb => h.own b (List.mem_of_mem_filter hb)

theorem Consistent.register (h : r.Consistent) (hid : id < r.table.classes.length)
    (hok : r.register id = .ok (next, name)) : next.Consistent := by
  rcases r.register_cases id with ⟨hfind, heq⟩ | ⟨hfree, heq⟩ | ⟨other, -, -, heq⟩
  · rw [h.register_of_mem (mem_bindings_of_find? hfind)] at hok
    cases hok
    exact h
  · rw [heq] at hok
    cases hok
    exact h.adding hid hfree
  · rw [heq] at hok
    cases hok

theorem length_of_register (hok : r.register id = .ok (next, name)) :
    next.table.classes.length = r.table.classes.length := by
  rcases r.register_cases id with ⟨-, heq⟩ | ⟨-, heq⟩ | ⟨other, -, -, heq⟩
  all_goals
    rw [heq] at hok
    cases hok
  · exact ClassTable.length_setName _ _ _
  · exact ClassTable.length_setName _ _ _

/-- All bindings are there still, in order, and those that are new come behind them. -/
def Extends (r next : Registry) : Prop :=
  ∃ new, next.bindings = r.bindings ++ new ∧ ∀ b ∈ new, b.1 ∉ r.names

theorem Extends.refl (r : Registry) : r.Extends r := ⟨[], by simp, by simp⟩

theorem Extends.mem (h : r.Extends next) {b : String × ClassId} (hb : b ∈ r.bindings) :
    b ∈ next.bindings := by
  obtain ⟨new, heq, -⟩ := h
  rw [heq]
  exact List.mem_append_left _ hb

theorem Extends.trans {last : Registry} (h : r.Extends next) (hlast : next.Extends last) :
    r.Extends last := by
  obtain ⟨new, heq, hnew⟩ := h
  obtain ⟨newer, heq', hnewer⟩ := hlast
  refine ⟨new ++ newer, by rw [heq', heq, List.append_assoc], fun b hb hold => ?_⟩
  rcases List.mem_append.1 hb with hb | hb
  · exact hnew b hb hold
  · refine hnewer b hb ?_
    rw [names, heq, List.map_append]
    exact List.mem_append_left _ hold

theorem extends_of_register (hok : r.register id = .ok (next, name)) :
    r.Extends next ∧ (name, id) ∈ next.bindings := by
  rcases r.register_cases id with ⟨hfind, heq⟩ | ⟨hfree, heq⟩ | ⟨other, -, -, heq⟩
  all_goals
    rw [heq] at hok
    cases hok
  · exact ⟨⟨[], by simp, by simp⟩, mem_bindings_of_find? hfind⟩
  · refine ⟨⟨[(r.nameFor id, id)], rfl, fun b hb => ?_⟩, by simp [Registry.adding]⟩
    obtain rfl : b = (r.nameFor id, id) := by simpa using hb
    exact hfree

/-- Classes registered one after the other, up to the first that is refused. -/
def registerAll (r : Registry) : List ClassId → Registry × Except Failure Unit
  | [] => (r, .ok ())
  | id :: ids =>
    match r.register id with
    | .ok (next, _) => next.registerAll ids
    | .error failure => (r, .error failure)

theorem extends_registerAll (r : Registry) (ids : List ClassId) :
    r.Extends (r.registerAll ids).1 := by
  induction ids generalizing r with
  | nil => exact .refl r
  | cons id ids ih =>
    rw [registerAll]
    split
    next next name hok => exact (extends_of_register hok).1.trans (ih next)
    next => exact .refl r

theorem Consistent.registerAll (h : r.Consistent) {ids : List ClassId}
    (hids : ∀ id ∈ ids, id < r.table.classes.length) :
    (r.registerAll ids).1.Consistent ∧
      (r.registerAll ids).1.table.classes.length = r.table.classes.length := by
  induction ids generalizing r with
  | nil => exact ⟨h, rfl⟩
  | cons id ids ih =>
    rw [Registry.registerAll]
    rw [List.forall_mem_cons] at hids
    split
    next next name hok =>
      have hlength := length_of_register hok
      have hrest := ih (h.register hids.1 hok) (by rw [hlength]; exact hids.2)
      exact ⟨hrest.1, hrest.2.trans hlength⟩
    next => exact ⟨h, rfl⟩

end Registry

end ThemeLint
