import Mathlib.Data.List.Induction
import ThemeLint.Proofs.RegistryHistory
import ThemeLint.Proofs.Traversal

set_option autoImplicit false

namespace ThemeLint

namespace ClassTable

def ancestorsOf (t : ClassTable) (id : ClassId) : List ClassId :=
  ((t.get? id).map CheckClass.ancestors).getD []

/-- No class comes with a name, and each is built on all that its ancestors are built on. -/
structure IsNameless (t : ClassTable) : Prop where
  nameless : ∀ id c, t.get? id = some c → c.name = none
  transitive : ∀ id, ∀ a ∈ t.ancestorsOf id, ∀ b ∈ t.ancestorsOf a, b ∈ t.ancestorsOf id

/-- The classes in a list that come before all that they are built on. -/
def leaders (t : ClassTable) (ids : List ClassId) : List ClassId :=
  ids.filter fun id => (t.ancestorsOf id).all (· ∉ ids.takeWhile (· ≠ id))

variable {t : ClassTable} {ids : List ClassId} {id a : ClassId}

theorem takeWhile_ne_append {before later : List ClassId} (h : id ∉ before) :
    (before ++ id :: later).takeWhile (· ≠ id) = before := by
  rw [List.takeWhile_append_of_pos fun other hother =>
    decide_eq_true (ne_of_mem_of_not_mem hother h)]
  simp

theorem leaders_snoc (hid : id ∉ ids) :
    t.leaders (ids ++ [id]) =
      t.leaders ids ++ if ∀ a ∈ t.ancestorsOf id, a ∉ ids then [id] else [] := by
  have hbefore (other : ClassId) (hother : other ∈ ids) :
      (ids ++ [id]).takeWhile (· ≠ other) = ids.takeWhile (· ≠ other) := by
    obtain ⟨front, rest, rfl, hfront⟩ := List.eq_append_cons_of_mem hother
    rw [List.append_assoc, List.cons_append, takeWhile_ne_append hfront, takeWhile_ne_append hfront]
  rw [leaders, List.filter_append]
  congr 1
  · refine List.filter_congr fun other hother => ?_
    rw [hbefore other hother]
  · rw [List.filter_singleton, takeWhile_ne_append hid]
    simp [Bool.cond_eq_ite]

theorem leaders_of_pairwise (h : ids.Pairwise fun a b => a ∉ t.ancestorsOf b) :
    t.leaders ids = ids := by
  refine List.filter_eq_self.2 fun id hid => ?_
  obtain ⟨before, later, rfl, hbefore⟩ := List.eq_append_cons_of_mem hid
  rw [takeWhile_ne_append hbefore]
  simp only [List.all_eq_true, decide_eq_true_eq]
  exact fun a ha hmem => (List.pairwise_append.1 h).2.2 a hmem id List.mem_cons_self ha

theorem mem_leaders_of_isFirst (ht : t.IsNameless) (h : IsFirst (· ∈ t.ancestorsOf id) ids a) :
    a ∈ t.leaders ids := by
  obtain ⟨before, later, rfl, ha, hbefore⟩ := h
  have hfront : (before ++ a :: later).takeWhile (· ≠ a) = before :=
    takeWhile_ne_append fun hmem => hbefore a hmem ha
  refine List.mem_filter.2 ⟨List.mem_append_right _ List.mem_cons_self, ?_⟩
  simp only [hfront, List.all_eq_true, decide_eq_true_eq]
  exact fun b hb hmem => hbefore b hmem (ht.transitive id a ha b hb)

theorem notMem_leaders_iff (ht : t.IsNameless) :
    (∀ a ∈ t.ancestorsOf id, a ∉ t.leaders ids) ↔ ∀ a ∈ t.ancestorsOf id, a ∉ ids := by
  constructor
  · intro h
    rcases exists_isFirst_or_forall (· ∈ t.ancestorsOf id) ids with ⟨a, hfirst⟩ | hnone
    · exact absurd (mem_leaders_of_isFirst ht hfirst) (h a hfirst.holds)
    · exact fun a ha hmem => hnone a hmem ha
  · exact fun h a ha hmem => h a ha (List.mem_of_mem_filter hmem)

end ClassTable

namespace Registry

variable {r : Registry} {t : ClassTable} {bound ids : List ClassId} {id a : ClassId}

/-- Some classes of a table are bound, each to its title, and the others are as in the table. -/
structure Binds (r : Registry) (t : ClassTable) (bound : List ClassId) : Prop where
  bindings : r.bindings = bound.map fun id => (t.titleOf id, id)
  classes : ∀ id, r.table.get? id =
    (t.get? id).map fun c => if id ∈ bound then { c with name := some c.title } else c
  present : ∀ id ∈ bound, ∃ c, t.get? id = some c

theorem Binds.names (h : r.Binds t bound) : r.names = bound.map t.titleOf := by
  rw [Registry.names, h.bindings, List.map_map]
  rfl

theorem Binds.titleOf (h : r.Binds t bound) (id : ClassId) : r.table.titleOf id = t.titleOf id := by
  rw [ClassTable.titleOf, h.classes, Option.map_map, ClassTable.titleOf]
  congr 2
  funext c
  simp only [Function.comp_apply]
  split <;> rfl

theorem Binds.consistent (h : r.Binds t bound) (hdistinct : (bound.map t.titleOf).Nodup) :
    r.Consistent where
  nodup := by rwa [h.names]
  own := by
    intro b hb
    rw [h.bindings] at hb
    obtain ⟨id, hid, rfl⟩ := List.mem_map.1 hb
    obtain ⟨c, hc⟩ := h.present id hid
    have htitle : t.titleOf id = c.title := by simp [ClassTable.titleOf, hc]
    refine ⟨{ c with name := some c.title }, ?_, by rw [htitle], fun hempty => ?_⟩
    · rw [h.classes, hc, Option.map_some, if_pos hid]
    · rw [← hempty, htitle]

theorem Binds.own_name (h : r.Binds t bound) (ht : t.IsNameless) (a : ClassId) :
    (r.table.get? a).bind CheckClass.name = if a ∈ bound then some (t.titleOf a) else none := by
  rw [h.classes, ClassTable.titleOf]
  by_cases ha : a ∈ bound
  · obtain ⟨c, hc⟩ := h.present a ha
    simp [hc, ha]
  · cases hc : t.get? a with
    | none => simp [ha]
    | some c => simp [ha, ht.nameless a c hc]

theorem Binds.nameOf (h : r.Binds t bound) (ht : t.IsNameless) (hid : id ∉ bound) :
    r.table.nameOf id =
      (((t.ancestorsOf id).find? (· ∈ bound)).map t.titleOf).getD "" := by
  have hfind (as : List ClassId) : (as.filterMap r.table.get?).findSome? CheckClass.name =
      (as.find? (· ∈ bound)).map t.titleOf := by
    induction as with
    | nil => rfl
    | cons a as ih =>
      have hown := h.own_name ht a
      cases hget : r.table.get? a with
      | none =>
        have ha : a ∉ bound := by
          intro ha
          rw [hget, if_pos ha] at hown
          cases hown
        rw [List.filterMap_cons_none hget, ih, List.find?_cons_of_neg (by simpa using ha)]
      | some c =>
        rw [hget, Option.bind_some] at hown
        rw [List.filterMap_cons_some hget, List.findSome?_cons, hown, ih, List.find?_cons]
        by_cases ha : a ∈ bound <;> simp [ha]
  rw [ClassTable.nameOf, ClassTable.inherited, h.classes, ClassTable.ancestorsOf]
  cases hc : t.get? id with
  | none => rfl
  | some c =>
    simp only [Option.map_some, if_neg hid, List.findSome?_cons, ht.nameless id c hc, hfind]
    rfl

theorem Binds.register_of_free (h : r.Binds t bound) (ht : t.IsNameless)
    (hid : ∃ c, t.get? id = some c) (htitle : t.titleOf id ∉ bound.map t.titleOf)
    (hfree : ∀ a ∈ t.ancestorsOf id, a ∉ bound) :
    (r.change (.register id)).2 = .ok () ∧
      (r.change (.register id)).1.Binds t (bound ++ [id]) := by
  have hnew : id ∉ bound := fun hmem => htitle (List.mem_map_of_mem hmem)
  have hnone : (t.ancestorsOf id).find? (· ∈ bound) = none :=
    List.find?_eq_none.2 fun a ha => by simpa using hfree a ha
  have hname : r.nameFor id = t.titleOf id := by
    rw [nameFor, h.nameOf ht hnew, hnone, h.titleOf]
    rfl
  have hregister : r.register id = .ok (r.adding id, t.titleOf id) := by
    have hfind := find?_eq_none_iff.2 (h.names ▸ htitle)
    simp only [register, hname, hfind, adding]
  rw [change, hregister]
  refine ⟨rfl, ?_, fun other => ?_, fun other hother => ?_⟩
  · simp only [adding, hname, h.bindings, List.map_append, List.map_singleton]
  · simp only [adding, ClassTable.get?_setName, h.classes, hname, Option.map_map]
    obtain ⟨c, hc⟩ := hid
    by_cases heq : other = id
    · subst heq
      simp [hc, hnew, ClassTable.titleOf]
    · simp [heq, Function.comp_def]
  · rcases List.mem_append.1 hother with hother | hother
    · exact h.present other hother
    · rw [List.mem_singleton.1 hother]
      exact hid

theorem Binds.register_of_first (h : r.Binds t bound) (ht : t.IsNameless) (hid : id ∉ bound)
    (hdistinct : (bound.map t.titleOf).Nodup) (hempty : "" ∉ bound.map t.titleOf)
    (hfirst : IsFirst (· ∈ bound) (t.ancestorsOf id) a) :
    r.change (.register id) = (r, .error (.nameTaken (t.titleOf a))) := by
  have ha := hfirst.holds
  have hfound : (t.ancestorsOf id).find? (· ∈ bound) = some a := by
    obtain ⟨before, later, heq, -, hbefore⟩ := hfirst
    refine List.find?_eq_some_iff_append.2 ⟨decide_eq_true ha, before, later, heq, ?_⟩
    exact fun b hb => by simpa using hbefore b hb
  have hname : r.nameFor id = t.titleOf a := by
    rw [nameFor, h.nameOf ht hid, hfound]
    have hne : t.titleOf a ≠ "" := ne_of_mem_of_not_mem (List.mem_map_of_mem ha) hempty
    exact if_neg hne
  have hbound : (t.titleOf a, a) ∈ r.bindings := by
    rw [h.bindings]
    exact List.mem_map_of_mem ha
  have hfind := (h.consistent hdistinct).find?_of_mem hbound
  rw [change, register_of_other (hname ▸ hfind) (ne_of_mem_of_not_mem ha hid), hname]

theorem Binds.mem_bindings_iff (h : r.Binds t bound) (a : ClassId) :
    (t.titleOf a, a) ∈ r.bindings ↔ a ∈ bound := by
  rw [h.bindings, List.mem_map]
  constructor
  · rintro ⟨b, hb, heq⟩
    rwa [← (Prod.mk.inj heq).2]
  · exact fun ha => ⟨a, ha, rfl⟩

/-- One more class after others: it leads them, or it is kept out by one that does. -/
theorem Binds.register_next (h : r.Binds t (t.leaders ids)) (ht : t.IsNameless)
    (hid : ∃ c, t.get? id = some c) (hdistinct : ((ids ++ [id]).map t.titleOf).Nodup)
    (hempty : "" ∉ ids.map t.titleOf) :
    ((∀ a ∈ t.ancestorsOf id, a ∉ ids) ∧ (r.change (.register id)).2 = .ok () ∧
      (r.change (.register id)).1.Binds t (t.leaders (ids ++ [id]))) ∨
    ∃ a, a ∈ ids ∧ IsFirst (· ∈ t.leaders ids) (t.ancestorsOf id) a ∧
      r.change (.register id) = (r, .error (.nameTaken (t.titleOf a))) ∧
      r.Binds t (t.leaders (ids ++ [id])) := by
  have hsub : ((t.leaders ids).map t.titleOf).Sublist (ids.map t.titleOf) :=
    List.filter_sublist.map _
  rw [List.map_append, List.map_singleton, List.nodup_append] at hdistinct
  have htitle : t.titleOf id ∉ ids.map t.titleOf := fun hmem =>
    hdistinct.2.2 _ hmem _ List.mem_cons_self rfl
  have hnew : id ∉ ids := fun hmem => htitle (List.mem_map_of_mem hmem)
  rw [ClassTable.leaders_snoc hnew]
  rcases exists_isFirst_or_forall (· ∈ t.leaders ids) (t.ancestorsOf id) with
    ⟨a, hfirst⟩ | hnone
  · have ha : a ∈ ids := List.mem_of_mem_filter hfirst.holds
    have hrefused := h.register_of_first ht (fun hmem => hnew (List.mem_of_mem_filter hmem))
      (hdistinct.1.sublist hsub) (fun hmem => hempty (hsub.subset hmem)) hfirst
    refine .inr ⟨a, ha, hfirst, hrefused, ?_⟩
    rw [if_neg fun hfree => hfree a hfirst.mem ha, List.append_nil]
    exact h
  · have hfree := (ClassTable.notMem_leaders_iff ht).1 hnone
    rw [if_pos hfree]
    exact .inl ⟨hfree, h.register_of_free ht hid (fun hmem => htitle (hsub.subset hmem)) hnone⟩

theorem binds_registered (ht : t.IsNameless) (hids : ∀ id ∈ ids, ∃ c, t.get? id = some c)
    (hdistinct : (ids.map t.titleOf).Nodup) (hempty : "" ∉ ids.map t.titleOf) :
    ((ofClasses t.classes).changes (ids.map .register)).Binds t (t.leaders ids) := by
  -- From the end: what becomes of the last class depends on what those before it are bound to.
  induction ids using List.reverseRecOn with
  | nil => exact ⟨rfl, fun id => by simp [ofClasses, changes, ClassTable.leaders], nofun⟩
  | append_singleton ids id ih =>
    have hpre : (ids.map t.titleOf).Sublist ((ids ++ [id]).map t.titleOf) :=
      (List.sublist_append_left ids [id]).map _
    have hbefore := ih (fun other hother => hids other (List.mem_append_left _ hother))
      (hdistinct.sublist hpre) (fun hmem => hempty (hpre.subset hmem))
    rw [List.map_append, changes, List.foldl_append]
    rcases hbefore.register_next ht (hids id (by simp)) hdistinct
        (fun hmem => hempty (hpre.subset hmem)) with ⟨-, -, hnext⟩ | ⟨a, -, -, heq, hsame⟩
    · exact hnext
    · rw [List.map_singleton, List.foldl_cons, List.foldl_nil]
      rw [changes] at heq
      rw [heq]
      exact hsame

theorem pairwise_iff_forall_split {R : ClassId → ClassId → Prop} :
    ids.Pairwise R ↔ ∀ before id later, ids = before ++ id :: later → ∀ a ∈ before, R a id := by
  constructor
  · rintro h before id later rfl a ha
    exact (List.pairwise_append.1 h).2.2 a ha id List.mem_cons_self
  · intro h
    induction ids using List.reverseRecOn with
    | nil => exact List.Pairwise.nil
    | append_singleton ids id ih =>
      refine List.pairwise_append.2
        ⟨ih fun before other later heq => ?_, List.pairwise_singleton _ _, fun a ha b hb => ?_⟩
      · exact h before other (later ++ [id]) (by rw [heq, List.append_assoc]; rfl)
      · rw [List.mem_singleton.1 hb]
        exact h ids id [] rfl a ha

section Order

variable (ht : t.IsNameless) (hids : ∀ id ∈ ids, ∃ c, t.get? id = some c)
  (hdistinct : (ids.map t.titleOf).Nodup) (hempty : "" ∉ ids.map t.titleOf)

include ht hids hdistinct hempty

theorem change_in_turn {before later : List ClassId} (heq : ids = before ++ id :: later) :
    let r := (ofClasses t.classes).changes (before.map .register)
    ((r.change (.register id)).2 = .ok () ↔ ∀ a ∈ t.ancestorsOf id, a ∉ before) ∧
    ∀ failure, (r.change (.register id)).2 = .error failure →
      ∃ a, IsFirst (fun a => (t.titleOf a, a) ∈ r.bindings) (t.ancestorsOf id) a ∧
        failure = .nameTaken (t.titleOf a) ∧ (r.change (.register id)).1 = r := by
  intro r
  have hpre : before ++ [id] <+: ids := ⟨later, by rw [heq, List.append_assoc]; rfl⟩
  have hturn := hpre.sublist.map t.titleOf
  have hbefore := (List.sublist_append_left before [id]).map t.titleOf
  have hnonempty := fun hmem => hempty (hturn.subset (hbefore.subset hmem))
  have hbinds : r.Binds t (t.leaders before) :=
    binds_registered ht (fun other hother => hids other (hpre.subset (by simp [hother])))
      (hdistinct.sublist (hbefore.trans hturn)) hnonempty
  rcases hbinds.register_next ht (hids id (hpre.subset (by simp))) (hdistinct.sublist hturn)
      hnonempty with ⟨hnone, hok, -⟩ | ⟨a, ha, hfirst, hchange, -⟩
  · rw [hok]
    exact ⟨iff_of_true rfl hnone, nofun⟩
  · rw [hchange]
    refine ⟨iff_of_false nofun fun hnone => hnone a hfirst.mem ha, ?_⟩
    rintro failure ⟨⟩
    refine ⟨a, ?_, rfl, rfl⟩
    simpa only [hbinds.mem_bindings_iff] using hfirst

end Order

/-- Classes without names are registered one after the other. A class is bound to its title if none
that it is built on comes before it; otherwise it is refused, for the name of the nearest bound
class that it is built on, and nothing changes. So all are bound just when none comes behind one
that it is built on. -/
theorem registrations_of_nameless (ht : t.IsNameless) (hids : ∀ id ∈ ids, ∃ c, t.get? id = some c)
    (hdistinct : (ids.map t.titleOf).Nodup) (hempty : "" ∉ ids.map t.titleOf) :
    (∀ before id later, ids = before ++ id :: later →
      let r := (ofClasses t.classes).changes (before.map .register)
      ((r.change (.register id)).2 = .ok () ↔ ∀ a ∈ t.ancestorsOf id, a ∉ before) ∧
      ∀ failure, (r.change (.register id)).2 = .error failure →
        ∃ a, IsFirst (fun a => (t.titleOf a, a) ∈ r.bindings) (t.ancestorsOf id) a ∧
          failure = .nameTaken (t.titleOf a) ∧ (r.change (.register id)).1 = r) ∧
    ((ofClasses t.classes).changes (ids.map .register)).bindings =
      (t.leaders ids).map (fun id => (t.titleOf id, id)) ∧
    ((∀ before id later, ids = before ++ id :: later →
      (((ofClasses t.classes).changes (before.map .register)).change (.register id)).2 = .ok ()) ↔
      ids.Pairwise fun a b => a ∉ t.ancestorsOf b) ∧
    ((ids.Pairwise fun a b => a ∉ t.ancestorsOf b) →
      ((ofClasses t.classes).changes (ids.map .register)).bindings =
        ids.map fun id => (t.titleOf id, id)) := by
  have hbinds := binds_registered ht hids hdistinct hempty
  refine ⟨fun before id later => change_in_turn ht hids hdistinct hempty, hbinds.bindings, ?_,
    fun hpairwise => ?_⟩
  · rw [pairwise_iff_forall_split]
    refine forall₄_congr fun before id later heq => ?_
    rw [(change_in_turn ht hids hdistinct hempty heq).1]
    exact ⟨fun h a ha hmem => h a hmem ha, fun h a ha hmem => h a hmem ha⟩
  · rw [hbinds.bindings, ClassTable.leaders_of_pairwise hpairwise]

def descent : ClassTable :=
  ⟨[⟨"Base", none, none, [], none, none⟩, ⟨"Derived", none, none, [0], none, none⟩,
    ⟨"Last", none, none, [1, 0], none, none⟩]⟩

theorem isNameless_descent : descent.IsNameless where
  nameless := by
    intro id c hc
    have hall : ∀ c ∈ descent.classes, c.name = none := by simp [descent]
    exact hall c (List.mem_of_getElem? hc)
  transitive := by
    intro id a ha b hb
    rcases id with _ | _ | _ | id
    all_goals simp [ClassTable.ancestorsOf, ClassTable.get?, descent] at ha
    · subst ha
      simp [ClassTable.ancestorsOf, ClassTable.get?, descent] at hb
    · rcases ha with rfl | rfl
      all_goals simp [ClassTable.ancestorsOf, ClassTable.get?, descent] at hb
      simp [ClassTable.ancestorsOf, ClassTable.get?, descent, hb]

theorem registrations_of_descent :
    descent.IsNameless ∧
    ((ofClasses descent.classes).changes ([2, 1, 0].map .register)).bindings =
      [("Last", 2), ("Derived", 1), ("Base", 0)] ∧
    ((ofClasses descent.classes).changes ([0, 1, 2].map .register)).bindings = [("Base", 0)] := by
  have hids : ∀ id ∈ [0, 1, 2], ∃ c, descent.get? id = some c := by
    simp [ClassTable.get?, descent]
  have hturned : ∀ id ∈ [2, 1, 0], ∃ c, descent.get? id = some c := by
    simp [ClassTable.get?, descent]
  obtain ⟨-, -, -, hdown⟩ :=
    registrations_of_nameless isNameless_descent hturned (by decide) (by decide)
  obtain ⟨-, hup, -⟩ := registrations_of_nameless isNameless_descent hids (by decide) (by decide)
  exact ⟨isNameless_descent, hdown (by decide), hup⟩

/-- Whatever the order, classes without names are all bound, each to its title. -/
def BindsAllInAnyOrder (t : ClassTable) : Prop :=
  ∀ ids, (∀ id ∈ ids, ∃ c, t.get? id = some c) → (ids.map t.titleOf).Nodup →
    "" ∉ ids.map t.titleOf →
    (∀ before id later, ids = before ++ id :: later →
      (((ofClasses t.classes).changes (before.map .register)).change (.register id)).2 = .ok ()) ∧
    ∀ name id, (name, id) ∈ ((ofClasses t.classes).changes (ids.map .register)).bindings ↔
      id ∈ ids ∧ name = t.titleOf id

theorem not_bindsAllInAnyOrder : ¬ ∀ t : ClassTable, t.IsNameless → BindsAllInAnyOrder t := by
  intro h
  have hall := (h descent isNameless_descent [0, 1] (by simp [ClassTable.get?, descent]) (by decide)
    (by decide)).1 [0] 1 [] rfl
  cases hall

end Registry

end ThemeLint
