import ThemeLint.Proofs.Plugins

set_option autoImplicit false

namespace ThemeLint.Registry

inductive Change where
  | register (id : ClassId)
  | unregister (name : String)
  | loadPlugins (entryPoints : List EntryPoint)

def Change.classes : Change → List ClassId
  | .register id => [id]
  | .unregister _ => []
  | .loadPlugins es => es.filterMap EntryPoint.class?

def change (r : Registry) : Change → Registry × Except Failure Unit
  | .register id =>
    match r.register id with
    | .ok (next, _) => (next, .ok ())
    | .error failure => (r, .error failure)
  | .unregister name => (r.unregister name, .ok ())
  | .loadPlugins es => ((r.loadPlugins es).1, (r.loadPlugins es).2.result.map fun _ => ())

def changes (r : Registry) (cs : List Change) : Registry := cs.foldl (fun r c => (r.change c).1) r

variable {r next : Registry} {id : ClassId} {name : String}

theorem change_register (r : Registry) (id : ClassId) :
    r.change (.register id) = r.registerAll [id] := by
  rw [change, registerAll]
  cases r.register id <;> rfl

/-- Plugins change a registry as the checks of the first of them do, up to where the loading ends. -/
theorem exists_loadPlugins_fst (r : Registry) (es : List EntryPoint) :
    ∃ before later, es = before ++ later ∧
      (r.loadPlugins es).1 = after { r with pluginsLoaded := true } before := by
  cases hloaded : r.pluginsLoaded with
  | true =>
    have hsame : { r with pluginsLoaded := true } = r := by simp [← hloaded]
    exact ⟨[], es, rfl, by simp [loadPlugins, hloaded, hsame, after, registerAll]⟩
  | false =>
    rcases loadPlugins_cases hloaded es with
      ⟨next, hnext, hall⟩ | ⟨before, e, later, mid, failure, heq, hmid, hstops, hstopped⟩
    · exact ⟨es, [], by simp, by rw [hall, after_of_goThrough hnext]⟩
    · exact ⟨before, e :: later, heq, by rw [hstopped, after_of_goThrough hmid]⟩

theorem extends_loadPlugins (r : Registry) (es : List EntryPoint) :
    r.Extends (r.loadPlugins es).1 := by
  obtain ⟨before, later, -, heq⟩ := r.exists_loadPlugins_fst es
  rw [heq]
  exact extends_registerAll { r with pluginsLoaded := true } _

theorem Consistent.mark (h : r.Consistent) : Consistent { r with pluginsLoaded := true } :=
  ⟨h.nodup, h.own⟩

theorem Consistent.change (h : r.Consistent) {c : Change}
    (hc : ∀ id ∈ c.classes, id < r.table.classes.length) :
    (r.change c).1.Consistent ∧
      (r.change c).1.table.classes.length = r.table.classes.length := by
  cases c with
  | register id =>
    rw [change_register]
    exact h.registerAll hc
  | unregister name => exact ⟨h.unregister name, rfl⟩
  | loadPlugins es =>
    obtain ⟨before, later, rfl, heq⟩ := r.exists_loadPlugins_fst es
    rw [Registry.change, heq]
    refine h.mark.registerAll fun id hid => hc id ?_
    rw [Change.classes, List.filterMap_append]
    exact List.mem_append_left _ hid

theorem Consistent.changes (h : r.Consistent) {cs : List Change}
    (hcs : ∀ c ∈ cs, ∀ id ∈ c.classes, id < r.table.classes.length) :
    (r.changes cs).Consistent ∧ (r.changes cs).table.classes.length = r.table.classes.length := by
  induction cs generalizing r with
  | nil => exact ⟨h, rfl⟩
  | cons c cs ih =>
    rw [List.forall_mem_cons] at hcs
    obtain ⟨hnext, hlength⟩ := h.change hcs.1
    have hrest := ih hnext (by rw [hlength]; exact hcs.2)
    exact ⟨hrest.1, hrest.2.trans hlength⟩

theorem consistent_ofClasses (classes : List CheckClass) : (ofClasses classes).Consistent :=
  ⟨List.nodup_nil, fun _ hb => nomatch hb⟩

theorem nodup_registerAll (h : r.names.Nodup) (ids : List ClassId) :
    (r.registerAll ids).1.names.Nodup := by
  induction ids generalizing r with
  | nil => exact h
  | cons id ids ih =>
    rw [registerAll]
    rcases r.register_cases id with ⟨-, heq⟩ | ⟨hfree, heq⟩ | ⟨other, -, -, heq⟩
    · rw [heq]
      exact ih h
    · rw [heq]
      exact ih (nodup_adding h hfree)
    · rw [heq]
      exact h

theorem nodup_change (h : r.names.Nodup) (c : Change) : (r.change c).1.names.Nodup := by
  cases c with
  | register id =>
    rw [change_register]
    exact nodup_registerAll h [id]
  | unregister name => exact h.sublist (List.Sublist.map _ List.filter_sublist)
  | loadPlugins es =>
    obtain ⟨before, later, -, heq⟩ := r.exists_loadPlugins_fst es
    rw [change, heq]
    exact nodup_registerAll (r := { r with pluginsLoaded := true }) h _

theorem nodup_changes (h : r.names.Nodup) (cs : List Change) : (r.changes cs).names.Nodup := by
  induction cs generalizing r with
  | nil => exact h
  | cons c cs ih => exact ih (nodup_change h c)

/-- What stays bound, stays so in its order; what is new comes behind it. -/
def KeepsOrder (r next : Registry) : Prop :=
  ∃ new, next.bindings = r.bindings.filter (·.1 ∈ next.names) ++ new ∧ ∀ b ∈ new, b.1 ∉ r.names

theorem Extends.keepsOrder (h : r.Extends next) : r.KeepsOrder next := by
  obtain ⟨new, heq, hnew⟩ := h
  refine ⟨new, ?_, hnew⟩
  have hall : r.bindings.filter (·.1 ∈ next.names) = r.bindings := by
    refine List.filter_eq_self.2 fun b hb => decide_eq_true ?_
    rw [names, heq, List.map_append]
    exact List.mem_append_left _ (List.mem_map_of_mem hb)
  rw [hall, heq]

theorem mem_names_unregister {n : String} :
    n ∈ (r.unregister name).names ↔ n ∈ r.names ∧ n ≠ name := by
  simp only [names, unregister, List.mem_map, List.mem_filter, decide_eq_true_eq]
  constructor
  · intro h
    obtain ⟨b, ⟨hb, hne⟩, rfl⟩ := h
    exact ⟨⟨b, hb, rfl⟩, hne⟩
  · intro h
    obtain ⟨⟨b, hb, rfl⟩, hne⟩ := h
    exact ⟨b, ⟨hb, hne⟩, rfl⟩

theorem keepsOrder_unregister (r : Registry) (name : String) : r.KeepsOrder (r.unregister name) := by
  refine ⟨[], ?_, by simp⟩
  rw [List.append_nil]
  refine List.filter_congr fun b hb => ?_
  have hold : b.1 ∈ r.names := List.mem_map_of_mem hb
  simp only [mem_names_unregister, hold, true_and]

theorem keepsOrder_change (r : Registry) (c : Change) : r.KeepsOrder (r.change c).1 := by
  cases c with
  | register id =>
    rw [change_register]
    exact (extends_registerAll r [id]).keepsOrder
  | unregister name => exact keepsOrder_unregister r name
  | loadPlugins es =>
    exact (r.extends_loadPlugins es).keepsOrder

theorem loadPlugins_of_error {es : List EntryPoint} {failure : Failure}
    (h : (r.loadPlugins es).2.result = .error failure) :
    ∃ before e later, es = before ++ e :: later ∧ (r.loadPlugins es).1.Stops e failure ∧
      r.change (.loadPlugins before) = ((r.loadPlugins es).1, .ok ()) := by
  cases hloaded : r.pluginsLoaded with
  | true => simp [loadPlugins, hloaded] at h
  | false =>
    rcases loadPlugins_cases hloaded es with
      ⟨next, hnext, hall⟩ | ⟨before, e, later, mid, other, heq, hmid, hstops, hstopped⟩
    · rw [hall] at h
      cases h
    · rw [hstopped] at h ⊢
      cases h
      -- Without the one that ends the loading, the plugins before it are gone through.
      refine ⟨before, e, later, heq, hstops, ?_⟩
      rw [change, loadPlugins_eq hloaded, loadFrom_of_goThrough hmid]
      rfl

theorem Stops.kind_or {e : EntryPoint} {failure : Failure} (h : r.Stops e failure) :
    failure.kind = .value ∨ ∃ own, e.plugin = .broken own ∧ own.message = .error failure := by
  cases h with
  | clash => exact .inl rfl
  | wordless hplugin hwords => exact .inr ⟨_, hplugin, hwords⟩

theorem change_register_of_error {failure : Failure}
    (h : (r.change (.register id)).2 = .error failure) :
    failure.kind = .value ∧ (r.change (.register id)).1 = r := by
  rcases r.register_cases id with ⟨-, heq⟩ | ⟨-, heq⟩ | ⟨other, -, -, heq⟩
  all_goals
    rw [change, heq] at h
    cases h
  rw [change, heq]
  exact ⟨rfl, rfl⟩

theorem checksFor_singleton (h : r.find? name = some id) :
    r.checksFor [name] = (r.table.make id).map ([·]) := by
  simp only [checksFor, List.mapM_cons, List.mapM_nil, make, h]
  cases r.table.make id <;> rfl

theorem Consistent.make_name (h : r.Consistent) (hmem : (name, id) ∈ r.bindings) {check : Check}
    (hmake : r.table.make id = .ok check) : check.name = name := by
  obtain ⟨c, hget, hname, -⟩ := h.own _ hmem
  rw [ClassTable.make_name hmake, ClassTable.nameOf_of_own hget hname]

/-- Whatever happened to a registry: each name is bound once, to a class that has this name and no
other one; what stays keeps its order and what is new comes last; what is registered twice or
refused changes nothing, and loading that fails does what the plugins before that do; and the checks
made for a name have it, as have their offenses. -/
theorem registry_over_changes (classes : List CheckClass) (cs : List Change)
    (hcs : ∀ c ∈ cs, ∀ id ∈ c.classes, id < classes.length) :
    let r := (ofClasses classes).changes cs
    r.names.Nodup ∧
    (∀ name id, (name, id) ∈ r.bindings →
      ∃ c, r.table.get? id = some c ∧ c.name = some name) ∧
    (∀ m n id, (m, id) ∈ r.bindings → (n, id) ∈ r.bindings → m = n) ∧
    (∀ c, r.KeepsOrder (r.change c).1) ∧
    (∀ id, r.nameFor id ∉ r.names → (r.change (.register id)).2 = .ok () ∧
      (r.change (.register id)).1.bindings = r.bindings ++ [(r.nameFor id, id)]) ∧
    (∀ name id, (name, id) ∈ r.bindings → r.change (.register id) = (r, .ok ())) ∧
    (∀ id failure, (r.change (.register id)).2 = .error failure →
      failure.kind = .value ∧ (r.change (.register id)).1 = r) ∧
    (∀ es failure, (r.loadPlugins es).2.result = .error failure →
      ∃ before e later, es = before ++ e :: later ∧
        r.change (.loadPlugins before) = ((r.loadPlugins es).1, .ok ()) ∧
        (failure.kind = .value ∨ ∃ own, e.plugin = .broken own ∧ own.message = .error failure)) ∧
    ∀ name ∈ r.names, ∃ id, (name, id) ∈ r.bindings ∧
      r.checksFor [name] = (r.table.make id).map ([·]) ∧
      ∀ check, r.table.make id = .ok check → check.name = name ∧
        (∀ analyse, r.table.inherited CheckClass.analyse id = some analyse →
          check.analyse = analyse name check.severity) ∧
        ∀ file message start stop,
          (offense check.name check.severity file message start stop).code = .str name := by
  intro r
  have h : r.Consistent := ((consistent_ofClasses classes).changes hcs).1
  refine ⟨h.nodup, fun name id hmem => ?_, fun m n id => h.name_unique, keepsOrder_change r,
    fun id hfree => ?_, fun name id hmem => ?_, fun id failure => change_register_of_error,
    fun es failure hfailure => ?_, fun name hname => ?_⟩
  · obtain ⟨c, hget, hown, -⟩ := h.own _ hmem
    exact ⟨c, hget, hown⟩
  · rcases r.register_cases id with ⟨hfind, -⟩ | ⟨-, heq⟩ | ⟨other, -, hfind, -⟩
    · exact absurd (mem_names (mem_bindings_of_find? hfind)) hfree
    · rw [change, heq]
      exact ⟨rfl, rfl⟩
    · exact absurd (mem_names (mem_bindings_of_find? hfind)) hfree
  · rw [change, h.register_of_mem hmem]
  · obtain ⟨before, e, later, heq, hstops, hchange⟩ := loadPlugins_of_error hfailure
    exact ⟨before, e, later, heq, hchange, hstops.kind_or⟩
  · obtain ⟨⟨_, id⟩, hmem, rfl⟩ := List.mem_map.1 hname
    refine ⟨id, hmem, checksFor_singleton (h.find?_of_mem hmem), fun check hmake => ?_⟩
    have hcheck := h.make_name hmem hmake
    refine ⟨hcheck, fun analyse hanalyse => ?_, fun file message start stop => ?_⟩
    · rw [ClassTable.make_analyse hmake hanalyse, hcheck]
    · exact congrArg Json.str hcheck

def family : List CheckClass :=
  [⟨"Base", none, none, [], none, none⟩, ⟨"Derived", none, none, [0], none, none⟩,
    ⟨"Other", some "Base", none, [], none, none⟩]

def rivalry : List Change :=
  [.register 1, .register 0, .register 2, .unregister "Base", .register 2,
    .loadPlugins [⟨"base", .check 0⟩]]

theorem registry_over_rivalry :
    (∀ c ∈ rivalry, ∀ id ∈ c.classes, id < family.length) ∧
      ((ofClasses family).changes rivalry).bindings = [("Derived", 1), ("Base", 2)] ∧
      ((ofClasses family).changes rivalry).names.Nodup ∧
      (((ofClasses family).changes rivalry).change (.register 2)).2 = .ok () := by
  have hcs : ∀ c ∈ rivalry, ∀ id ∈ c.classes, id < family.length := by
    simp [rivalry, family, Change.classes, EntryPoint.class?]
  have h := registry_over_changes family rivalry hcs
  have hbound : ((ofClasses family).changes rivalry).bindings = [("Derived", 1), ("Base", 2)] := by rfl
  refine ⟨hcs, hbound, h.1, ?_⟩
  rw [h.2.2.2.2.2.1 "Base" 2 (by rw [hbound]; decide)]

end ThemeLint.Registry
