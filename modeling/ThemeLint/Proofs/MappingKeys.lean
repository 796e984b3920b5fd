import ThemeLint.Yaml.Value

/-!
The keys of a mapping that was read. However its entries were merged and whatever they are shared
with, no key stands twice in it, so looking a key up finds the one entry that has it.
-/

set_option autoImplicit false

namespace ThemeLint.Yaml

variable {α β : Type}

def Distinct (entries : List (Scalar × α)) : Prop :=
  entries.Pairwise fun a b => a.1.same b.1 = false

theorem Scalar.same_str (key : Scalar) (text : WideText) :
    key.same (.str text) = decide (key = .str text) := by
  cases key <;> simp [same, wholeNumber?]

theorem Distinct.lookup_str_eq_some_iff {entries : List (Scalar × α)} (h : Distinct entries)
    (text : WideText) (value : α) :
    entries.lookup (.str text) = some value ↔ (.str text, value) ∈ entries := by
  rw [List.lookup_eq_some_iff]
  constructor
  · intro hfirst
    obtain ⟨before, later, rfl, -⟩ := hfirst
    exact List.mem_append_right _ List.mem_cons_self
  · intro hmem
    obtain ⟨before, later, rfl⟩ := List.append_of_mem hmem
    refine ⟨before, later, rfl, fun entry hentry => ?_⟩
    have hother := (List.pairwise_append.1 h).2.2 entry hentry _ List.mem_cons_self
    rw [Scalar.same_str, decide_eq_false_iff_not] at hother
    exact bne_iff_ne.2 (Ne.symm hother)

namespace Read

/-- The mappings that were filled so far have distinct keys. -/
def Sound (r : Reading) : Prop :=
  ∀ (id : NodeId) entries, r.contents[id]? = some (some (Content.mapping entries)) → Distinct entries

/-- Work that leaves a sound reading sound, and then gives what it says. -/
def Gives (Q : α → Prop) (x : Read α) : Prop :=
  ∀ r a r', Sound r → x.run r = .ok (a, r') → Sound r' ∧ Q a

abbrev Keeps (x : Read α) : Prop := Gives (fun _ => True) x

theorem gives_pure {Q : α → Prop} {a : α} (h : Q a) : Gives Q (pure a : Read α) := by
  intro r b r' hr heq
  cases heq
  exact ⟨hr, h⟩

theorem gives_throw (Q : α → Prop) (why : Fault) : Gives Q (throw why : Read α) := by
  intro r a r' hr heq
  cases heq

theorem Gives.bind {Q : α → Prop} {R : β → Prop} {x : Read α} {f : α → Read β} (hx : Gives Q x)
    (hf : ∀ a, Q a → Gives R (f a)) : Gives R (x >>= f) := by
  intro r b last hr h
  rw [StateT.run_bind] at h
  cases hrun : x.run r with
  | error why =>
    rw [hrun] at h
    cases h
  | ok made =>
    rw [hrun] at h
    obtain ⟨hmid, hmade⟩ := hx r made.1 made.2 hr hrun
    exact hf made.1 hmade made.2 b last hmid h

theorem Gives.map {Q : α → Prop} {x : Read α} (hx : Gives Q x) (f : α → β) :
    Keeps (f <$> x) := by
  rw [map_eq_pure_bind]
  exact hx.bind fun _ _ => gives_pure trivial

theorem gives_get : Keeps (get : Read Reading) := by
  intro r a r' hr heq
  cases heq
  exact ⟨hr, trivial⟩

theorem gives_modify {g : Reading → Reading} (h : ∀ r, Sound r → Sound (g r)) :
    Keeps (modify g : Read Unit) := by
  intro r a r' hr heq
  cases heq
  exact ⟨h r hr, trivial⟩

theorem gives_forIn {I : β → Prop} {f : α → β → Read (ForInStep β)}
    (hf : ∀ a b, I b → Gives (fun step => I step.value) (f a b)) (items : List α) {init : β}
    (hinit : I init) : Gives I (forIn items init f) := by
  induction items generalizing init with
  | nil => exact gives_pure hinit
  | cons a items ih =>
    rw [List.forIn_cons]
    refine (hf a init hinit).bind fun step hstep => ?_
    cases step with
    | done b => exact gives_pure hstep
    | yield b => exact ih hstep

theorem gives_mapM {f : α → Read β} (hf : ∀ a, Keeps (f a)) (items : List α) :
    Keeps (items.mapM f) := by
  induction items with
  | nil => exact gives_pure trivial
  | cons a items ih =>
    rw [List.mapM_cons]
    exact (hf a).bind fun _ _ => ih.bind fun _ _ => gives_pure trivial

theorem gives_forM {f : α → Read Unit} (hf : ∀ a, Keeps (f a)) (items : List α) :
    Keeps (items.forM f) := by
  induction items with
  | nil => exact gives_pure trivial
  | cons a items ih =>
    exact (hf a).bind fun _ _ => ih

theorem gives_nodeAt (id : NodeId) : Keeps (nodeAt id) := by
  unfold nodeAt
  refine gives_get.bind fun r _ => ?_
  split
  · exact gives_pure trivial
  · exact gives_throw _ _

theorem gives_setContent (id : NodeId) {c : Content}
    (h : ∀ entries, c = .mapping entries → Distinct entries) :
    Keeps (setContent id c) := by
  refine gives_modify fun r hr => ?_
  intro other entries hget
  rw [Array.getElem?_setIfInBounds] at hget
  split at hget
  · split at hget
    · exact h entries (by simpa using hget)
    · cases hget
  · exact hr other entries hget

theorem gives_setEntries (id : NodeId) (entries : List (NodeId × NodeId)) :
    Keeps (setEntries id entries) :=
  gives_modify fun _ hr => by exact hr

theorem gives_textOf (depth : Nat) (id : NodeId) : Keeps (textOf depth id) := by
  induction depth generalizing id with
  | zero => exact gives_throw _ _
  | succ depth ih =>
    unfold textOf
    refine (gives_nodeAt id).bind fun n _ => ?_
    split
    · exact gives_pure trivial
    · exact gives_throw _ _
    · refine (gives_forIn (I := fun _ => True) (fun entry found _ => ?_) _ trivial).bind fun found _ => ?_
      · refine (gives_nodeAt _).bind fun key _ => ?_
        split
        · exact (ih _).bind fun _ _ => gives_pure trivial
        · exact gives_pure trivial
      · obtain ⟨early, _⟩ := found
        cases early with
        | none => exact gives_throw _ _
        | some text => exact gives_pure trivial

theorem gives_meet (id : NodeId) : Keeps (meet id) := by
  unfold meet
  refine gives_get.bind fun r _ => ?_
  split
  · exact gives_pure trivial
  refine (gives_nodeAt id).bind fun n _ => ?_
  cases hc : emptyContent? n.tag with
  | some c =>
    refine (gives_setContent id ?_).bind fun _ _ => gives_modify fun _ hr => hr
    intro entries heq
    subst heq
    unfold emptyContent? at hc
    split at hc
    all_goals cases hc
    exact List.Pairwise.nil
  | none =>
    dsimp only
    split
    · exact (gives_throw (fun _ => False) _).bind fun _ h => h.elim
    refine (gives_textOf _ _).bind fun text _ => ?_
    split
    · exact gives_throw _ _
    · cases Scalar.ofText n.tag id text with
      | ok s => exact gives_setContent id nofun
      | error fault => exact gives_throw _ _

theorem gives_entriesOf (id : NodeId) : Keeps (entriesOf id) := by
  unfold entriesOf
  refine (gives_nodeAt id).bind fun n _ => ?_
  split
  · exact gives_pure trivial
  · exact gives_throw _ _

theorem gives_flattenFrom (fuel depth : Nat) (id : NodeId) (index : Nat)
    (merged : List (NodeId × NodeId)) :
    Keeps (flattenFrom fuel depth id index merged) := by
  -- Merging rewrites the entries of nodes only; mappings that were filled stay as they are.
  induction fuel generalizing depth id index merged with
  | zero => exact gives_throw _ _
  | succ fuel ih =>
    unfold flattenFrom
    refine (gives_entriesOf id).bind fun entries _ => ?_
    split
    · split
      · exact gives_setEntries _ _
      · exact gives_pure trivial
    · refine (gives_nodeAt _).bind fun key _ => ?_
      split
      · refine (gives_setEntries _ _).bind fun _ _ => ?_
        have hflat (other : NodeId) : Keeps (do
            if depth = 0 then throw Fault.tooDeep
            flattenFrom fuel (depth - 1) other 0 []
            entriesOf other) := by
          split
          · exact (gives_throw (fun _ => False) _).bind fun _ h => h.elim
          · exact (ih _ _ _ _).bind fun _ _ => gives_entriesOf other
        refine (gives_nodeAt _).bind fun value _ => ?_
        split
        · exact (hflat _).bind fun _ _ => ih _ _ _ _
        · exact ((gives_mapM hflat _).map _).bind fun _ _ => ih _ _ _ _
        · exact (gives_throw (fun _ => False) _).bind fun _ h => h.elim
      · refine Gives.bind (Q := fun _ => True) (gives_modify fun _ hr => hr) fun _ _ => ih _ _ _ _
      · exact ih _ _ _ _

theorem mem_insertEntry {key : Scalar} {value : NodeId} {entries : List (Scalar × NodeId)}
    {entry : Scalar × NodeId} (h : entry ∈ insertEntry key value entries) :
    entry = (key, value) ∨ ∃ old ∈ entries, old.1 = entry.1 := by
  induction entries with
  | nil => exact .inl (List.mem_singleton.1 h)
  | cons first entries ih =>
    rw [insertEntry] at h
    split at h
    · rcases List.mem_cons.1 h with rfl | hmem
      · exact .inr ⟨first, List.mem_cons_self, rfl⟩
      · exact .inr ⟨entry, List.mem_cons_of_mem _ hmem, rfl⟩
    · rcases List.mem_cons.1 h with rfl | hmem
      · exact .inr ⟨_, List.mem_cons_self, rfl⟩
      · rcases ih hmem with heq | ⟨old, hold, hkey⟩
        · exact .inl heq
        · exact .inr ⟨old, List.mem_cons_of_mem _ hold, hkey⟩

theorem distinct_insertEntry {entries : List (Scalar × NodeId)} (h : Distinct entries) (key : Scalar)
    (value : NodeId) : Distinct (insertEntry key value entries) := by
  induction entries with
  | nil => exact List.pairwise_singleton _ _
  | cons first entries ih =>
    obtain ⟨hfirst, hrest⟩ := List.pairwise_cons.1 h
    rw [insertEntry]
    split
    · exact List.pairwise_cons.2 ⟨hfirst, hrest⟩
    next hsame =>
      refine List.pairwise_cons.2 ⟨fun entry hentry => ?_, ih hrest⟩
      rcases mem_insertEntry hentry with rfl | ⟨old, hold, hkey⟩
      · exact Bool.eq_false_iff.2 hsame
      · rw [← hkey]
        exact hfirst old hold

theorem gives_keyOf (id : NodeId) : Keeps (keyOf id) := by
  unfold keyOf
  refine (gives_meet id).bind fun _ _ => gives_get.bind fun r _ => ?_
  split
  · exact gives_pure trivial
  · exact gives_throw _ _

theorem gives_mappingOf (id : NodeId) : Gives Distinct (mappingOf id) := by
  unfold mappingOf
  refine (gives_flattenFrom _ _ id 0 []).bind fun _ _ => (gives_entriesOf id).bind fun entries _ => ?_
  refine (gives_forIn (fun entry filled hfilled => ?_) entries List.Pairwise.nil).bind
    fun filled h => gives_pure h
  refine (gives_keyOf _).bind fun k _ => (gives_meet _).bind fun _ _ => gives_pure ?_
  exact distinct_insertEntry hfilled k _

theorem gives_fill (id : NodeId) : Keeps (fill id) := by
  unfold fill
  refine (gives_nodeAt id).bind fun n _ => ?_
  split
  · refine (gives_mappingOf id).bind fun entries h => gives_setContent id ?_
    intro _ heq
    cases heq
    exact h
  · exact (gives_mappingOf id).bind fun entries _ => gives_setContent id nofun
  · split
    · exact (gives_forM gives_meet _).bind fun _ _ => gives_setContent id nofun
    · exact gives_throw _ _
  · split
    · refine (gives_mapM (fun item => ?_) _).bind fun _ _ => gives_setContent id nofun
      refine (gives_entriesOf item).bind fun entries _ => ?_
      split
      · exact (gives_meet _).bind fun _ _ => (gives_meet _).bind fun _ _ => gives_pure trivial
      · exact gives_throw _ _
    · exact gives_throw _ _

theorem gives_fillAll (left : Nat) : Keeps (fillAll left) := by
  induction left with
  | zero => exact gives_pure trivial
  | succ left ih =>
    unfold fillAll
    refine gives_get.bind fun r _ => ?_
    split
    · exact gives_pure trivial
    · refine Gives.bind (Q := fun _ => True) (gives_modify fun _ hr => hr) fun _ _ => ?_
      exact (gives_fill _).bind fun _ _ => ih

end Read

theorem Graph.distinct_of_meaning {g : Graph} {root id : NodeId} {contents : Array (Option Content)}
    {entries : List (Scalar × NodeId)} (h : g.meaning root = .ok contents)
    (hget : contents[id]? = some (some (.mapping entries))) : Distinct entries := by
  let work : Read Unit := do
    Read.meet root
    Read.fillAll (g.nodes.size + 1)
  have hwork : Read.Keeps work :=
    (Read.gives_meet root).bind fun _ _ => Read.gives_fillAll _
  have hstart : Read.Sound ⟨g.nodes, g.nodes.map fun _ => none, []⟩ := by
    intro other es hother
    simp at hother
  change (work.run ⟨g.nodes, g.nodes.map fun _ => none, []⟩).bind
    (fun last => .ok last.2.contents) = .ok contents at h
  cases hrun : work.run ⟨g.nodes, g.nodes.map fun _ => none, []⟩ with
  | error why =>
    rw [hrun] at h
    cases h
  | ok last =>
    rw [hrun] at h
    cases h
    exact (hwork _ last.1 last.2 hstart hrun).1 id entries hget

theorem keys_mapM (grow : NodeId → Grow Value) (entries : List (Scalar × NodeId))
    (grown : Array (Option Value)) :
    ((entries.mapM fun (k, a) => return (k, ← grow a) : Grow (List (Scalar × Value))).run grown).1.map
      Prod.fst = entries.map Prod.fst := by
  induction entries generalizing grown with
  | nil => rfl
  | cons entry entries ih =>
    rw [List.mapM_cons]
    exact congrArg (entry.1 :: ·) (ih _)

theorem keys_treeOf {contents : Array (Option Content)} {root : NodeId}
    {entries : List (Scalar × Value)} (h : treeOf contents root = .mapping entries) :
    ∃ filled, contents[root]? = some (some (.mapping filled)) ∧
      filled.map Prod.fst = entries.map Prod.fst := by
  unfold treeOf growTree at h
  cases hget : (contents[root]?).getD none with
  | none =>
    simp only [hget] at h
    cases h
  | some c =>
    have hcontent : contents[root]? = some (some c) := by
      cases hat : contents[root]? with
      | none => simp [hat] at hget
      | some content => simpa [hat] using hget
    have hungrown : (contents.map fun _ => (none : Option Value))[root]? = some none := by
      simp [Array.getElem?_map, hcontent]
    simp only [hget, List.contains_nil, Bool.false_eq_true, if_false] at h
    cases c with
    | mapping filled =>
      simp only [bind_pure_comp, bind_map_left, StateT.run_bind, StateT.run_get, pure_bind, hungrown,
        StateT.run_map, StateT.run_modify, map_pure] at h
      exact ⟨filled, hcontent, by rw [← Value.mapping.inj h]; exact (keys_mapM _ filled _).symm⟩
    | _ => simp [StateT.run_bind, hungrown] at h

theorem Distinct.of_keys {xs : List (Scalar × α)} {ys : List (Scalar × β)}
    (h : Distinct xs) (hkeys : xs.map Prod.fst = ys.map Prod.fst) : Distinct ys := by
  unfold Distinct at *
  rw [← List.pairwise_map (f := Prod.fst) (R := fun a b : Scalar => a.same b = false)] at h ⊢
  rwa [← hkeys]

theorem distinct_of_load {text : String} {entries : List (Scalar × Value)}
    (h : load text = .ok (.mapping entries)) : Distinct entries := by
  unfold load at h
  split at h
  · cases h
  split at h
  · cases h
  split at h
  · cases h
  next contents hmeaning =>
    obtain ⟨filled, hfilled, hkeys⟩ := keys_treeOf (Except.ok.inj h)
    exact (Graph.distinct_of_meaning hmeaning hfilled).of_keys hkeys

end ThemeLint.Yaml
