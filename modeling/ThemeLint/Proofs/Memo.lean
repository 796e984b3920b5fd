import Mathlib.Data.List.Induction
import ThemeLint.Proofs.Discovery

/-!
The memory of a session. The first configuration that can be loaded is kept until the session ends,
whatever happens to the files and to the registry; before it, failed attempts leave no trace. Among
messages about one project the memory cannot be noticed: each is answered as a session that was
started for it alone would answer.
-/

set_option autoImplicit false

namespace ThemeLint.Session

/-- What loading a configuration comes to, at an operation that needs one in a session without. -/
def attempt? (s : Session) (op : Operation) : Option (Except Failure Config) :=
  match s.config with
  | some _ => none
  | none => op.asked?.map fun path => (s.loadFor path).result

def attempts (s : Session) (ops : List Operation) : List (Except Failure Config) :=
  s.along (fun s op => (s.attempt? op).toList) ops

theorem perform_config_eq_attempt (s : Session) (op : Operation) :
    (s.perform op).1.config = s.config.or ((s.attempt? op).bind Except.toOption) := by
  rw [perform_config]
  unfold attempt?
  cases s.config with
  | some config => rfl
  | none => cases op.asked? <;> rfl

theorem attempts_snoc (s : Session) (ops : List Operation) (op : Operation) :
    s.attempts (ops ++ [op]) = s.attempts ops ++ ((s.run ops).attempt? op).toList := by
  simp [attempts, along_append, along]

theorem run_config (disk : Disk) (registry : Registry) (ops : List Operation) :
    ((start disk registry).run ops).config =
      ((start disk registry).attempts ops).findSome? Except.toOption := by
  induction ops using List.reverseRecOn with
  | nil => rfl
  | append_singleton ops op ih =>
    rw [run_snoc, perform_config_eq_attempt, attempts_snoc, List.findSome?_append, ih]
    cases ((start disk registry).run ops).attempt? op with
    | none => simp
    | some outcome => cases outcome <;> simp [Except.toOption]

theorem run_config_of_some (s : Session) (config : Config) (h : s.config = some config)
    (ops : List Operation) : (s.run ops).config = some config := by
  induction ops generalizing s with
  | nil => exact h
  | cons op ops ih =>
    apply ih
    rw [perform_config, h]
    rfl

theorem attempts_of_some (s : Session) (config : Config) (h : s.config = some config)
    (ops : List Operation) : s.attempts ops = [] := by
  induction ops generalizing s with
  | nil => rfl
  | cons op ops ih =>
    have hn := run_config_of_some s config h [op]
    have hop : s.attempt? op = none := by simp [attempt?, h]
    have hops := ih (s.perform op).1 hn
    simp only [attempts, along, hop] at hops ⊢
    exact hops

/-- Of the attempts of a run, none but the last succeeds. -/
theorem countP_attempts_le_one (s : Session) (ops : List Operation) :
    (s.attempts ops).countP Except.isOk ≤ 1 := by
  induction ops generalizing s with
  | nil => simp [attempts, along]
  | cons op ops ih =>
    have hstep : s.attempts (op :: ops) =
        (s.attempt? op).toList ++ (s.perform op).1.attempts ops := rfl
    rw [hstep]
    cases ha : s.attempt? op with
    | none => simpa using ih (s.perform op).1
    | some outcome =>
      cases outcome with
      | error failure => simpa [Except.isOk, Except.toBool] using ih (s.perform op).1
      | ok config =>
        have hnone : s.config = none := by
          unfold attempt? at ha
          split at ha
          · cases ha
          · assumption
        have hsome : (s.perform op).1.config = some config := by
          rw [perform_config_eq_attempt, hnone, ha]
          rfl
        rw [attempts_of_some _ config hsome]
        simp [Except.isOk, Except.toBool]

theorem answer_result_of_error (s : Session) (method : Method) (id params : Json) (path : Path)
    (failure : Failure) (hp : method.asked? params = some path)
    (hf : s.configFor path = .error failure) :
    (s.answer method id params).2.result = .error failure := by
  unfold Method.asked? at hp
  split at hp
  next hm =>
    obtain ⟨uri, text, hd, hu, rfl⟩ := (documentPath?_eq_some_iff params path).1 hp
    rw [answer_of_diagnoses s hm, diagnoseIn_result, hd]
    simp [Except.bind, diagnosticsOf, hu, offenses_result, hf, Except.map]
  next => cases hp

theorem handle_result_of_error (s : Session) (method : Method) (params : Json) (path : Path)
    (failure : Failure) (hp : method.asked? params = some path)
    (hf : s.configFor path = .error failure) :
    (s.handle method params).2.result = .error failure := by
  simp only [handle, dispatch_name, Traced.result_bind]
  rw [answer_result_of_error s method .null _ path failure (by rw [asked?_given, hp]) hf]
  rfl

theorem perform_result_of_attempt (s : Session) (op : Operation) (failure : Failure)
    (h : s.attempt? op = some (.error failure)) : (s.perform op).2.result = .error failure := by
  unfold attempt? at h
  split at h
  next => cases h
  next hs =>
    obtain ⟨path, hp, hl⟩ := Option.map_eq_some_iff.1 h
    have hf : s.configFor path = .error failure := by simp only [configFor, hs, hl]
    cases op with
    | resolve p =>
      obtain rfl : p = path := by simpa [Operation.asked?] using hp
      simp [perform, Traced.result_void, (s.resolve_eq p).2, hf, Except.map]
    | offenses p =>
      obtain rfl : p = path := by simpa [Operation.asked?] using hp
      simp [perform, Traced.result_void, offenses_result, hf, Except.map, Except.bind]
    | dispatch m =>
      obtain ⟨method, hm, hp⟩ := Option.bind_eq_some_iff.1 hp
      rw [← asked?_given] at hp
      simp [perform, Traced.result_void, dispatch, hm,
        answer_result_of_error s method m.id _ path failure hp hf, Except.map]
    | request r =>
      rcases s.receive_cases r with ⟨hasked, -⟩ | ⟨-, hresult, -⟩
      · cases hasked.symm.trans hp
      · rw [perform, hresult, handle_result_of_error s r.method r.params path failure hp hf]
        rfl
    | _ => cases hp

/-- The configuration of a session over all its runs. It is missing just as long as every attempt
failed; the operation at which it appears asked for a path whose root, discovered and loaded in the
files and with the registry of that moment, gives it; from then on it is the answer for every path. -/
theorem config_over_runs (disk : Disk) (registry : Registry) :
    (∀ ops, ((start disk registry).run ops).config = none ↔
      ∀ outcome ∈ (start disk registry).attempts ops, ∃ failure, outcome = .error failure) ∧
    (∀ ops op, ((start disk registry).run ops).config = none →
      (∀ config, ((start disk registry).run (ops ++ [op])).config = some config ↔
        ∃ path root, op.asked? = some path ∧
          Config.discoverRoot ((start disk registry).run ops).disk path = .ok root ∧
          (Config.load ((start disk registry).run ops).disk
            ((start disk registry).run ops).registry.names root).result = .ok config) ∧
      (∀ failure, ((start disk registry).run ops).attempt? op = some (.error failure) →
        (((start disk registry).run ops).perform op).2.result = .error failure)) ∧
    (∀ ops later config, ((start disk registry).run ops).config = some config →
      ((start disk registry).run (ops ++ later)).config = some config ∧
      ∀ path, ((start disk registry).run (ops ++ later)).resolve path =
        ((start disk registry).run (ops ++ later), pure config)) ∧
    ∀ ops, ((start disk registry).attempts ops).countP Except.isOk ≤ 1 := by
  refine ⟨fun ops => ?_, fun ops op hnone => ⟨fun config => ?_, fun failure => ?_⟩, ?_, ?_⟩
  · rw [run_config, List.findSome?_eq_none_iff]
    refine forall₂_congr fun outcome _ => ?_
    cases outcome <;> simp [Except.toOption]
  · rw [run_snoc, perform_config, hnone, Option.none_or, Option.bind_eq_some_iff]
    have hload (path : Path) : (((start disk registry).run ops).loadFor path).result.toOption =
        some config ↔ (((start disk registry).run ops).loadFor path).result = .ok config := by
      cases (((start disk registry).run ops).loadFor path).result <;> simp [Except.toOption]
    simp only [hload, loadFor_eq_ok_iff, exists_and_left]
  · exact perform_result_of_attempt _ op failure
  · intro ops later config h
    have hlater := run_config_of_some _ config h later
    rw [← run_append] at hlater
    refine ⟨hlater, fun path => ?_⟩
    simp only [resolve, hlater]
  · exact countP_attempts_le_one _

def reply (s : Session) (m : Message) : Except Failure Payload :=
  (s.dispatch m.method m.id m.params).2.result

def replies (s : Session) : List Message → List (Except Failure Payload)
  | [] => []
  | m :: ms => s.reply m :: (s.dispatch m.method m.id m.params).1.replies ms

/-- What a session holds is what loading at a root would give now. -/
def HoldsOnly (s : Session) (root : Path) : Prop :=
  ∀ config, s.config = some config →
    (Config.load s.disk s.registry.names root).result = .ok config

theorem loadFor_result_of_root (s : Session) (path root : Path)
    (h : Config.discoverRoot s.disk path = .ok root) :
    (s.loadFor path).result = (Config.load s.disk s.registry.names root).result := by
  unfold loadFor Traced.ask
  simp only [h, Traced.mapError_ok, Traced.result_bind, Traced.result_ofExcept, Except.bind]
  simp [Traced.info, Traced.leave]

theorem configFor_of_holdsOnly (s : Session) (path root : Path) (hs : s.HoldsOnly root)
    (h : Config.discoverRoot s.disk path = .ok root) :
    s.configFor path = (Config.load s.disk s.registry.names root).result := by
  unfold configFor
  cases hc : s.config with
  | none => exact s.loadFor_result_of_root path root h
  | some config => exact (hs config hc).symm

theorem findingsUnder_congr (disk : Disk) (registry : Registry) (held fresh : Option Config) :
    (⟨disk, registry, held⟩ : Session).findingsUnder =
      (⟨disk, registry, fresh⟩ : Session).findingsUnder := by
  funext config path
  simp only [findingsUnder]

theorem diagnosticsOf_congr (disk : Disk) (registry : Registry) (held fresh : Option Config)
    (uri : String)
    (h : ∀ text : String, Uri.documentPath uri = .ok text →
      (⟨disk, registry, held⟩ : Session).configFor (Path.ofText text) =
        (⟨disk, registry, fresh⟩ : Session).configFor (Path.ofText text)) :
    (⟨disk, registry, held⟩ : Session).diagnosticsOf uri =
      (⟨disk, registry, fresh⟩ : Session).diagnosticsOf uri := by
  unfold diagnosticsOf
  cases hu : Uri.documentPath uri with
  | error fault => simp only
  | ok text =>
    simp only
    rw [offenses_result, offenses_result, h text hu, findingsUnder_congr disk registry held fresh]

/-- Of its memory, a session's answer depends on the configuration for the path it asks for alone. -/
theorem answer_result_congr (disk : Disk) (registry : Registry) (held fresh : Option Config)
    (method : Method) (id params : Json)
    (h : ∀ path, method.asked? params = some path →
      (⟨disk, registry, held⟩ : Session).configFor path =
        (⟨disk, registry, fresh⟩ : Session).configFor path) :
    ((⟨disk, registry, held⟩ : Session).answer method id params).2.result =
      ((⟨disk, registry, fresh⟩ : Session).answer method id params).2.result := by
  cases hd : method.diagnoses with
  | false =>
    obtain ⟨payload, hp⟩ := answer_of_not_diagnoses hd id params
    rw [hp, hp]
  | true =>
    rw [answer_of_diagnoses _ hd, answer_of_diagnoses _ hd, diagnoseIn_result, diagnoseIn_result]
    cases hdoc : documentOf params with
    | error failure => simp only [Except.bind]
    | ok uri =>
      cases uri with
      | str uri =>
        have huri := diagnosticsOf_congr disk registry held fresh uri fun text hu => by
          apply h
          rw [Method.asked?, if_pos hd]
          exact (documentPath?_eq_some_iff params _).2 ⟨uri, text, hdoc, hu, rfl⟩
        simp only [Except.bind, huri]
      | _ => simp only [Except.bind]

theorem reply_congr (disk : Disk) (registry : Registry) (held fresh : Option Config) (m : Message)
    (h : ∀ path, m.asked? = some path →
      (⟨disk, registry, held⟩ : Session).configFor path =
        (⟨disk, registry, fresh⟩ : Session).configFor path) :
    (⟨disk, registry, held⟩ : Session).reply m = (⟨disk, registry, fresh⟩ : Session).reply m := by
  unfold Message.asked? at h
  unfold reply dispatch
  cases hm : Method.ofJson? m.method with
  | none => simp only
  | some method =>
    simp only
    apply answer_result_congr
    intro path hp
    rw [asked?_given] at hp
    exact h path (by rw [hm, Option.bind_some, hp])

theorem holdsOnly_dispatch (s : Session) (root : Path) (m : Message) (hs : s.HoldsOnly root)
    (hm : ∀ path, m.asked? = some path → Config.discoverRoot s.disk path = .ok root) :
    (s.dispatch m.method m.id m.params).1.HoldsOnly root := by
  rw [dispatch_fst]
  cases hp : m.asked? with
  | none => exact hs
  | some path =>
    intro config hc
    have hroot := s.configFor_of_holdsOnly path root hs (hm path hp)
    simp only [Option.elim_some, settle, hroot] at hc ⊢
    cases hl : (Config.load s.disk s.registry.names root).result with
    | error failure => simp [hl, Except.toOption] at hc
    | ok loaded =>
      simp only [hl, Except.toOption, Option.some.injEq] at hc
      rw [hc]

theorem replies_of_holdsOnly (s : Session) (root : Path) (ms : List Message)
    (hs : s.HoldsOnly root)
    (hms : ∀ m ∈ ms, ∀ path, m.asked? = some path → Config.discoverRoot s.disk path = .ok root) :
    s.replies ms = ms.map (start s.disk s.registry).reply := by
  -- What is held is what a session of its own would load, and no message changes that.
  induction ms generalizing s with
  | nil => rfl
  | cons m ms ih =>
    have hm := hms m List.mem_cons_self
    have hnext : (s.dispatch m.method m.id m.params).1.disk = s.disk ∧
        (s.dispatch m.method m.id m.params).1.registry = s.registry := by
      rw [dispatch_fst]
      cases m.asked? <;> exact ⟨rfl, rfl⟩
    have hfirst : s.reply m = (start s.disk s.registry).reply m := by
      apply reply_congr
      intro path hp
      rw [s.configFor_of_holdsOnly path root hs (hm path hp)]
      exact (loadFor_result_of_root (start s.disk s.registry) path root (hm path hp)).symm
    have hrest := ih _ (s.holdsOnly_dispatch root m hs hm) (by
      rw [hnext.1]
      exact fun n hn => hms n (List.mem_cons_of_mem m hn))
    rw [hnext.1, hnext.2] at hrest
    rw [replies, hfirst, hrest, List.map_cons]

/-- Messages about documents of one project, in one session on an unchanging disk and registry, are
answered as if each had a session of its own. -/
theorem replies_eq_map_start (disk : Disk) (registry : Registry) (root : Path) (ms : List Message)
    (h : ∀ m ∈ ms, ∀ path, m.asked? = some path → Config.discoverRoot disk path = .ok root) :
    (start disk registry).replies ms = ms.map (start disk registry).reply :=
  replies_of_holdsOnly (start disk registry) root ms (fun _ hc => nomatch hc) h

def messageAbout (method : Method) (uri : String) : Message :=
  ⟨.str method.name, .null, documentParams (.str uri)⟩

theorem asked?_messageAbout (method : Method) (uri text : String)
    (hm : method.diagnoses = true) (hu : Uri.documentPath uri = .ok text) :
    (messageAbout method uri).asked? = some (Path.ofText text) := by
  unfold messageAbout Message.asked?
  rw [Method.ofJson?_name, Option.bind_some, Method.asked?, if_pos hm]
  exact (documentPath?_eq_some_iff _ _).2 ⟨uri, text, rfl, hu, rfl⟩

def pairDisk : Disk := Disk.ofDirectory "p" (projectEntries ["a.liquid", "b.liquid"])

def pairRoot : Path := ⟨.root, ["p"]⟩

theorem isPlain_pairDisk : Disk.IsPlain "p" (projectEntries ["a.liquid", "b.liquid"]) where
  names := by decide
  distinct := by decide
  nodes := by decide

theorem usable_pairMarker :
    (pairRoot.child Config.fileName).parts.all (·.points.all Disk.isNameable) = true ∧
      Disk.isTooLong (pairRoot.child Config.fileName) = false := by
  decide

/-- Two documents of one project: the configuration is loaded for the first and serves the second,
and the answers are those of two sessions. -/
theorem replies_of_two_documents :
    let fresh := start pairDisk (Registry.ofClasses [])
    let first := messageAbout .didOpen "file:///p/a.liquid"
    let second := messageAbout .didSave "/p/b.liquid"
    (∀ m ∈ [first, second], ∀ path, m.asked? = some path →
      Config.discoverRoot pairDisk path = .ok pairRoot) ∧
    fresh.config = none ∧
    (fresh.run [.dispatch first]).config = some ⟨pairRoot, [], [], none⟩ ∧
    fresh.replies [first, second] = [fresh.reply first, fresh.reply second] := by
  intro fresh first second
  have hfirst : first.asked? = some (pairRoot.child "a.liquid") :=
    asked?_messageAbout .didOpen "file:///p/a.liquid" "/p/a.liquid" rfl (by decide)
  have hsecond : second.asked? = some (pairRoot.child "b.liquid") :=
    asked?_messageAbout .didSave "/p/b.liquid" "/p/b.liquid" rfl (by decide)
  have hroot (file : WideText) (hfile : file ∈ [("a.liquid" : WideText), "b.liquid"])
      (hpath : (pairRoot.child file).parts.all (·.points.all Disk.isNameable) = true ∧
        Disk.isTooLong (pairRoot.child file) = false) :
      Config.discoverRoot pairDisk (pairRoot.child file) = .ok pairRoot :=
    discoverRoot_project_file isPlain_pairDisk 0 rfl usable_pairMarker hfile hpath rfl
  have hroots : ∀ m ∈ [first, second], ∀ path, m.asked? = some path →
      Config.discoverRoot pairDisk path = .ok pairRoot := by
    simp only [List.forall_mem_cons, hfirst, hsecond, Option.some.injEq]
    refine ⟨?_, ?_, by simp⟩
    · rintro path rfl
      exact hroot _ (by simp) (by decide)
    · rintro path rfl
      exact hroot _ (by simp) (by decide)
  refine ⟨hroots, rfl, ?_, replies_eq_map_start _ _ _ _ hroots⟩
  have hload := (loadFor_eq_ok_iff fresh _ _).2 ⟨pairRoot, hroots first (by simp) _ hfirst,
    load_project isPlain_pairDisk 0 rfl usable_pairMarker []⟩
  rw [show fresh.run [.dispatch first] = (fresh.perform (.dispatch first)).1 from rfl,
    perform_config, Operation.asked?, hfirst, Option.bind_some, hload]
  rfl

end ThemeLint.Session
