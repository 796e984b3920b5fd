import ThemeLint.Proofs.ConfigFile
import ThemeLint.Proofs.MappingKeys
import ThemeLint.Proofs.RegistryHistory
import ThemeLint.Proofs.Traversal

set_option autoImplicit false

namespace ThemeLint.Config

variable {d : Disk} {dir : Path} {known : List String} {entries others : Entries} {config : Config}

/-- The entries that the configuration file of a directory holds. Without a file, and in an empty
one, there are none. -/
inductive Holds (d : Disk) (dir : Path) : Entries → Prop where
  | noFile : d.isFile (dir.child fileName) = .ok false → Holds d dir []
  | emptyFile {text : String} : d.isFile (dir.child fileName) = .ok true →
      d.textAt (dir.child fileName) = .ok text → Yaml.load text = .ok .null → Holds d dir []
  | mapping {text : String} {entries : Entries} : d.isFile (dir.child fileName) = .ok true →
      d.textAt (dir.child fileName) = .ok text → Yaml.load text = .ok (.mapping entries) →
      Holds d dir entries

theorem Holds.distinct (h : Holds d dir entries) : Yaml.Distinct entries := by
  cases h with
  | noFile => exact List.Pairwise.nil
  | emptyFile => exact List.Pairwise.nil
  | mapping hfile htext hload => exact Yaml.distinct_of_load hload

def sourceOf (d : Disk) (dir : Path) : Option Path :=
  match d.isFile (dir.child fileName) with
  | .ok true => some (dir.child fileName)
  | _ => none

theorem sourceOf_eq_some_iff (file : Path) :
    sourceOf d dir = some file ↔
      d.isFile (dir.child fileName) = .ok true ∧ file = dir.child fileName := by
  unfold sourceOf
  split
  next h => simp [h, eq_comm]
  next h => exact ⟨nofun, fun hfile => absurd hfile.1 h⟩

theorem Holds.load_eq (h : Holds d dir entries) (known : List String) :
    load d known dir = ofEntries known dir (sourceOf d dir) entries := by
  cases h with
  | noFile hfile =>
    simp only [load, sourceOf, hfile]
    rfl
  | emptyFile hfile htext hload =>
    simp only [load, sourceOf, hfile, readEntries, htext, hload]
    rfl
  | mapping hfile htext hload =>
    simp only [load, sourceOf, hfile, readEntries, htext, hload]
    rfl

theorem holds_of_readEntries (hfile : d.isFile (dir.child fileName) = .ok true)
    (hread : readEntries d (dir.child fileName) = .ok entries) : Holds d dir entries := by
  unfold readEntries at hread
  split at hread
  · cases hread
  · cases hread
  next text htext =>
    split at hread
    · cases hread
    · cases hread
    next value hload =>
      unfold entriesOf at hread
      split at hread
      · cases hread
        exact .mapping hfile htext hload
      · cases hread
        exact .emptyFile hfile htext hload
      · cases hread

theorem exists_holds_of_load (h : (load d known dir).result = .ok config) :
    ∃ entries, Holds d dir entries := by
  cases hfile : d.isFile (dir.child fileName) with
  | error fault =>
    simp only [load, hfile, Traced.ask, Traced.result_bind] at h
    cases h
  | ok present =>
    cases present with
    | false => exact ⟨[], .noFile hfile⟩
    | true =>
      rw [load_of_file known hfile] at h
      cases hread : readEntries d (dir.child fileName) with
      | error failure =>
        rw [hread] at h
        cases h
      | ok entries => exact ⟨entries, holds_of_readEntries hfile hread⟩

theorem ofEntries_eq_ok_iff {source : Option Path} :
    (ofEntries known dir source entries).result = .ok config ↔
      rootOf dir entries = .ok config.root ∧ ignoreOf entries = .ok config.ignore ∧
      entries.findSome? (entryFailure? (dir.child fileName)) = none ∧
      known.filter (!(namesOff known entries).contains ·) = config.enabled ∧
      source = config.source := by
  rw [ofEntries_result]
  cases rootOf dir entries with
  | error fault => simp
  | ok root =>
    cases ignoreOf entries with
    | error fault => simp
    | ok ignore =>
      cases entries.findSome? (entryFailure? (dir.child fileName)) with
      | some failure => simp
      | none =>
        obtain ⟨croot, cenabled, cignore, csource⟩ := config
        simp [and_assoc, and_comm]

/-- Where the theme is: in the directory itself, unless a text says where from there. -/
inductive Places (dir : Path) (entries : Entries) : Path → Prop where
  | here : entries.lookup (.str "root") = none → Places dir entries dir
  | there {text : WideText} : entries.lookup (.str "root") = some (.scalar (.str text)) →
      Places dir entries (dir.join (Path.ofText text)).normalize

theorem places_of_rootOf {root : Path} (h : rootOf dir entries = .ok root) :
    Places dir entries root := by
  unfold rootOf at h
  split at h
  next hnone =>
    cases h
    exact .here hnone
  next text htext =>
    cases h
    exact .there htext
  next => cases h

/-- What is left out: the texts of a list, and nothing where what stands there does not hold. -/
inductive Ignores (entries : Entries) : List WideText → Prop where
  | absent : entries.lookup (.str "ignore") = none → Ignores entries []
  | blank {value : Yaml.Value} : entries.lookup (.str "ignore") = some value →
      value.holds = false → Ignores entries []
  | listed {texts : List WideText} :
      entries.lookup (.str "ignore") = some (.list (texts.map fun text => .scalar (.str text))) →
      Ignores entries texts

theorem textsOf_eq_some {values : List Yaml.Value} {texts : List WideText}
    (h : textsOf values = some texts) : values = texts.map fun text => .scalar (.str text) := by
  induction values generalizing texts with
  | nil =>
    cases h
    rfl
  | cons value values ih =>
    unfold textsOf at h
    split at h
    · contradiction
    next text rest heq =>
      obtain ⟨rfl, rfl⟩ := List.cons.inj heq
      obtain ⟨texts, hrest, rfl⟩ := Option.map_eq_some_iff.1 h
      rw [ih hrest, List.map_cons]
    next => cases h

theorem ignores_of_ignoreOf {texts : List WideText} (h : ignoreOf entries = .ok texts) :
    Ignores entries texts := by
  unfold ignoreOf at h
  split at h
  next hnone =>
    cases h
    exact .absent hnone
  next value hvalue =>
    split at h
    next hblank =>
      cases h
      exact .blank hvalue (by simpa using hblank)
    next =>
      split at h
      next values =>
        split at h
        next found htexts =>
          cases h
          rw [textsOf_eq_some htexts] at hvalue
          exact .listed hvalue
        next => cases h
      next => cases h

/-- The section of a check says that the check is not enabled, by an outright false. -/
def TurnsOff (entries : Entries) (name : String) : Prop :=
  ∃ fields, entries.lookup (.str name) = some (.mapping fields) ∧
    fields.lookup (.str "enabled") = some (.scalar (.bool false))

theorem switchesOff_iff (value : Yaml.Value) :
    switchesOff value = true ↔ ∃ fields, value = .mapping fields ∧
      fields.lookup (.str "enabled") = some (.scalar (.bool false)) := by
  cases value with
  | mapping fields =>
    simp only [switchesOff, Yaml.Value.mapping.injEq, exists_eq_left']
    split
    next enabled henabled => cases enabled <;> simp [henabled]
    next hother => exact ⟨nofun, fun h => absurd h (hother false)⟩
  | _ => simp [switchesOff]

theorem find?_known_eq_some_iff (key : Yaml.Scalar) (name : String) :
    (known.find? fun (n : String) => key = .str n) = some name ↔ name ∈ known ∧ key = .str name := by
  constructor
  · intro h
    exact ⟨List.mem_of_find?_eq_some h, by simpa using List.find?_some h⟩
  · intro h
    obtain ⟨hmem, rfl⟩ := h
    cases hfind : known.find? fun (n : String) => Yaml.Scalar.str (name : WideText) = .str n with
    | none => simpa using List.find?_eq_none.1 hfind name hmem
    | some found =>
      have heq : Yaml.Scalar.str (name : WideText) = .str found := by
        simpa using List.find?_some hfind
      rw [WideText.ofString_inj.1 (Yaml.Scalar.str.inj heq)]

theorem mem_namesOff_iff (h : Yaml.Distinct entries) (name : String) :
    name ∈ namesOff known entries ↔
      name ∈ known ∧ name ≠ "root" ∧ name ≠ "ignore" ∧ TurnsOff entries name := by
  have hreserved : isReserved (.str name) = false ↔ name ≠ "root" ∧ name ≠ "ignore" := by
    simp [isReserved, WideText.ofString_inj]
  simp only [namesOff, List.mem_filterMap]
  constructor
  · intro hin
    obtain ⟨⟨key, value⟩, hentry, hname⟩ := hin
    split at hname
    · cases hname
    next hcond =>
      obtain ⟨hmem, rfl⟩ := (find?_known_eq_some_iff key name).1 hname
      simp only [Bool.or_eq_true, Bool.not_eq_true', not_or, Bool.not_eq_true, Bool.not_eq_false] at hcond
      obtain ⟨fields, rfl, hoff⟩ := (switchesOff_iff value).1 hcond.2
      obtain ⟨hroot, hignore⟩ := hreserved.1 hcond.1
      exact ⟨hmem, hroot, hignore, fields, (h.lookup_str_eq_some_iff _ _).2 hentry, hoff⟩
  · intro hin
    obtain ⟨hmem, hroot, hignore, fields, hsection, hoff⟩ := hin
    refine ⟨(.str name, .mapping fields), (h.lookup_str_eq_some_iff _ _).1 hsection, ?_⟩
    rw [hreserved.2 ⟨hroot, hignore⟩, (switchesOff_iff _).2 ⟨fields, rfl, hoff⟩]
    exact (find?_known_eq_some_iff _ name).2 ⟨hmem, rfl⟩

def isUnknown (known : List String) (key : Yaml.Scalar) : Bool :=
  !isReserved key && (known.find? fun (name : String) => key = .str name).isNone

def unknownSections (known : List String) (entries : Entries) : Entries :=
  entries.filter fun entry => isUnknown known entry.1

def notice (file : Path) (label : WideText) : Event :=
  .record .warning s!"Check desconhecido em {file.text}: {label}"

theorem switchedOff_cons_trace {file : Path} {key : Yaml.Scalar} {value : Yaml.Value} {rest : Entries}
    {off : List String} (h : (switchedOff file known ((key, value) :: rest)).result = .ok off) :
    (∃ more, (switchedOff file known rest).result = .ok more) ∧
    if isUnknown known key then
      ∃ label, key.label = .ok label ∧ (switchedOff file known ((key, value) :: rest)).trace =
        notice file label :: (switchedOff file known rest).trace
    else (switchedOff file known ((key, value) :: rest)).trace = (switchedOff file known rest).trace := by
  rw [switchedOff] at h ⊢
  by_cases hreserved : isReserved key = true
  · rw [if_pos hreserved] at h ⊢
    exact ⟨⟨off, h⟩, by simp [isUnknown, hreserved]⟩
  rw [if_neg hreserved] at h ⊢
  cases hlabel : key.label with
  | error why =>
    rw [hlabel] at h
    cases h
  | ok label =>
    rw [hlabel, Traced.mapError_ok, Traced.ofExcept_ok_bind] at h
    rw [Traced.mapError_ok, Traced.ofExcept_ok_bind]
    cases hsection : isSection value with
    | false =>
      rw [hsection] at h
      cases h
    | true =>
      rw [hsection] at h
      simp only [Bool.not_true, Bool.false_eq_true, if_false] at h ⊢
      cases hfind : known.find? fun (name : String) => key = .str name with
      | none =>
        simp only [hfind, Traced.warning, Traced.leave_bind] at h ⊢
        refine ⟨⟨off, h⟩, ?_⟩
        rw [if_pos (by simp [isUnknown, hreserved, hfind])]
        exact ⟨label, rfl, rfl⟩
      | some name =>
        simp only [hfind, Traced.bind_pure_eq] at h ⊢
        rw [if_neg (by simp [isUnknown, hfind])]
        cases hrest : (switchedOff file known rest).result with
        | error failure =>
          rw [hrest] at h
          cases h
        | ok more => exact ⟨⟨more, rfl⟩, trivial⟩

/-- Where no entry ends the search, it leaves one warning for each section of an unknown check. -/
theorem switchedOff_trace {file : Path} {off : List String}
    (h : (switchedOff file known entries).result = .ok off) :
    ∃ labels, (unknownSections known entries).mapM (·.1.label) = .ok labels ∧
      (switchedOff file known entries).trace = labels.map (notice file) := by
  -- Where the search comes through all entries, it comes through the rest of them.
  induction entries generalizing off with
  | nil => exact ⟨[], rfl, rfl⟩
  | cons entry rest ih =>
    obtain ⟨⟨more, hmore⟩, htrace⟩ := switchedOff_cons_trace h
    obtain ⟨labels, hlabels, hrest⟩ := ih hmore
    rw [hrest] at htrace
    cases hunknown : isUnknown known entry.1 with
    | false =>
      rw [if_neg (by simp [hunknown])] at htrace
      refine ⟨labels, ?_, htrace⟩
      rw [unknownSections, List.filter_cons_of_neg (by simp [hunknown])]
      exact hlabels
    | true =>
      rw [if_pos hunknown] at htrace
      obtain ⟨label, hlabel, htrace⟩ := htrace
      have hkeep : unknownSections known (entry :: rest) = entry :: unknownSections known rest :=
        List.filter_cons_of_pos hunknown
      refine ⟨label :: labels, ?_, htrace⟩
      rw [hkeep]
      exact (mapM_cons_eq_ok_iff _ _ _).2 ⟨label, labels, hlabel, hlabels, rfl⟩

theorem ofEntries_trace {source : Option Path}
    (h : (ofEntries known dir source entries).result = .ok config) :
    ∃ labels, (unknownSections known entries).mapM (·.1.label) = .ok labels ∧
      (ofEntries known dir source entries).trace = labels.map (notice (dir.child fileName)) := by
  obtain ⟨hroot, hignore, hfailure, -, -⟩ := ofEntries_eq_ok_iff.1 h
  have hoff := switchedOff_result (dir.child fileName) known entries
  rw [hfailure] at hoff
  obtain ⟨labels, hlabels, htrace⟩ := switchedOff_trace hoff
  refine ⟨labels, hlabels, ?_⟩
  unfold ofEntries
  simp only [hroot, hignore, Traced.mapError_ok, Traced.ofExcept_ok_bind, Traced.bind_pure_eq]
  exact htrace

section Order

/-- What entries mean where some checks are known: what is left without the sections of others. -/
def knownEntries (known : List String) (entries : Entries) : Entries :=
  entries.filter fun entry => !isUnknown known entry.1

variable (h : Yaml.Distinct entries) (hothers : Yaml.Distinct others)
  (hperm : (knownEntries known entries).Perm (knownEntries known others))

include h hothers hperm

theorem lookup_congr {text : WideText} (htext : isUnknown known (.str text) = false) :
    entries.lookup (.str text) = others.lookup (.str text) := by
  refine Option.ext fun value => ?_
  rw [h.lookup_str_eq_some_iff, hothers.lookup_str_eq_some_iff]
  have hmem := hperm.mem_iff (a := (Yaml.Scalar.str text, value))
  simpa [knownEntries, htext] using hmem

theorem turnsOff_congr {name : String} (hname : name ∈ known) :
    TurnsOff entries name ↔ TurnsOff others name := by
  have hknown : isUnknown known (.str name) = false := by
    rw [isUnknown, (find?_known_eq_some_iff _ name).2 ⟨hname, rfl⟩]
    exact Bool.and_false _
  rw [TurnsOff, TurnsOff, lookup_congr h hothers hperm hknown]

/-- Two files with the same entries but for their order and for sections of unknown checks come to
the same configuration if they are accepted. -/
theorem ofEntries_congr {source fresh : Option Path} {renewed : Config}
    (hconfig : (ofEntries known dir source entries).result = .ok config)
    (hrenewed : (ofEntries known dir fresh others).result = .ok renewed) :
    { renewed with source := config.source } = config := by
  obtain ⟨hroot, hignore, -, henabled, -⟩ := ofEntries_eq_ok_iff.1 hconfig
  obtain ⟨hroot', hignore', -, henabled', -⟩ := ofEntries_eq_ok_iff.1 hrenewed
  have hreserved {text : WideText} (htext : isReserved (.str text) = true) :
      entries.lookup (.str text) = others.lookup (.str text) :=
    lookup_congr h hothers hperm (by simp [isUnknown, htext])
  have hsameRoot : renewed.root = config.root := by
    rw [rootOf, ← hreserved (by decide), ← rootOf, hroot] at hroot'
    exact (Except.ok.inj hroot').symm
  have hsameIgnore : renewed.ignore = config.ignore := by
    rw [ignoreOf, ← hreserved (by decide), ← ignoreOf, hignore] at hignore'
    exact (Except.ok.inj hignore').symm
  have hsameEnabled : renewed.enabled = config.enabled := by
    rw [← henabled, ← henabled']
    refine List.filter_congr fun name hname => ?_
    have hoff : name ∈ namesOff known others ↔ name ∈ namesOff known entries := by
      rw [mem_namesOff_iff h, mem_namesOff_iff hothers, turnsOff_congr h hothers hperm hname]
    simp only [List.contains_eq_mem, hoff]
  rw [hsameRoot, hsameIgnore, hsameEnabled]

end Order

/-- Whatever configuration is loaded, it comes of the entries of the file in the directory. It
enables the known checks, each once and in their order, but for those whose section says outright
that they are not enabled; it leaves out what the file lists; its root is where the file puts it; and
one warning is left for each section of an unknown check, in the order of the file. Any other file
with the same entries, but for their order and for such sections, comes to the same. -/
theorem settings_of_load (d : Disk) (dir : Path) (classes : List CheckClass)
    (cs : List Registry.Change) (config : Config)
    (hload : (load d ((Registry.ofClasses classes).changes cs).names dir).result = .ok config) :
    let known := ((Registry.ofClasses classes).changes cs).names
    ∃ entries, Holds d dir entries ∧
      (config.enabled.Sublist known ∧ config.enabled.Nodup ∧
        ∀ name ∈ known, name ∈ config.enabled ↔
          name = "root" ∨ name = "ignore" ∨ ¬ TurnsOff entries name) ∧
      Ignores entries config.ignore ∧
      Places dir entries config.root ∧
      (∀ file, config.source = some file ↔
        d.isFile (dir.child fileName) = .ok true ∧ file = dir.child fileName) ∧
      (∃ labels, (unknownSections known entries).mapM (·.1.label) = .ok labels ∧
        (load d known dir).trace = labels.map (notice (dir.child fileName))) ∧
      ∀ other others renewed, Holds other dir others →
        (knownEntries known entries).Perm (knownEntries known others) →
        (load other known dir).result = .ok renewed →
        { renewed with source := config.source } = config := by
  intro known
  obtain ⟨entries, hholds⟩ := exists_holds_of_load hload
  have hnodup : known.Nodup := Registry.nodup_changes (r := Registry.ofClasses classes) List.nodup_nil cs
  rw [hholds.load_eq] at hload
  obtain ⟨hroot, hignore, hfailure, henabled, hsource⟩ := ofEntries_eq_ok_iff.1 hload
  refine ⟨entries, hholds, ⟨?_, ?_, fun name hname => ?_⟩, ignores_of_ignoreOf hignore,
    places_of_rootOf hroot, fun file => ?_, ?_, fun other others renewed hother hperm hrenewed => ?_⟩
  · rw [← henabled]
    exact List.filter_sublist
  · rw [← henabled]
    exact hnodup.filter _
  · rw [← henabled, List.mem_filter]
    simp only [List.contains_eq_mem, Bool.not_eq_true', decide_eq_false_iff_not,
      mem_namesOff_iff hholds.distinct]
    tauto
  · rw [← hsource, sourceOf_eq_some_iff]
  · rw [hholds.load_eq]
    exact ofEntries_trace hload
  · rw [hother.load_eq] at hrenewed
    exact ofEntries_congr hholds.distinct hother.distinct hperm hload hrenewed

def sampleText : String := "b: {enabled: false}\nc: ~\nignore: [x.liquid]\n"

def sample : List (WideText × Node) := [(fileName, .file sampleText.toUTF8.toList)]

def sampleClasses : List CheckClass :=
  [⟨"A", some "a", none, [], none, none⟩, ⟨"B", some "b", none, [], none, none⟩]

theorem isPlain_sample : Disk.IsPlain "p" sample where
  names := by decide
  distinct := by decide
  nodes := by decide

def sampleConfig : Config := ⟨⟨.root, ["p"]⟩, ["a"], ["x.liquid"], some ⟨.root, ["p", fileName]⟩⟩

theorem isFile_sample :
    (Disk.ofDirectory "p" sample).isFile ((⟨.root, ["p"]⟩ : Path).child fileName) = .ok true :=
  Disk.isA_ofDirectory isPlain_sample 0 (p := ⟨.root, ["p", fileName]⟩) rfl (by decide)
    (Disk.get?_ofDirectory_of_mem isPlain_sample List.mem_cons_self) rfl _

theorem textAt_sample :
    (Disk.ofDirectory "p" sample).textAt ((⟨.root, ["p"]⟩ : Path).child fileName) = .ok sampleText := by
  rw [Disk.textAt, Disk.bytesAt_ofDirectory isPlain_sample 0 rfl (by decide) (by decide)
    (Disk.get?_ofDirectory_of_mem isPlain_sample List.mem_cons_self)]
  decide +kernel

theorem load_sample :
    (load (Disk.ofDirectory "p" sample) ["a", "b"] ⟨.root, ["p"]⟩).result = .ok sampleConfig := by
  have hread : ((readEntries (Disk.ofDirectory "p" sample) ((⟨.root, ["p"]⟩ : Path).child fileName)).bind
      fun entries => (ofEntries ["a", "b"] ⟨.root, ["p"]⟩ sampleConfig.source entries).result).toOption =
      some sampleConfig := by
    rw [readEntries, textAt_sample]
    decide +kernel
  rw [load_of_file _ isFile_sample]
  cases hload : (readEntries (Disk.ofDirectory "p" sample) ((⟨.root, ["p"]⟩ : Path).child fileName)).bind
      fun entries => (ofEntries ["a", "b"] ⟨.root, ["p"]⟩ sampleConfig.source entries).result with
  | error failure =>
    rw [hload] at hread
    cases hread
  | ok config =>
    rw [hload] at hread
    exact hload.trans (congrArg Except.ok (Option.some.inj hread))

theorem settings_of_sample :
    (load (Disk.ofDirectory "p" sample) ((Registry.ofClasses sampleClasses).changes
      [.register 0, .register 1]).names ⟨.root, ["p"]⟩).result = .ok sampleConfig ∧
    ∃ entries, Holds (Disk.ofDirectory "p" sample) ⟨.root, ["p"]⟩ entries ∧
      TurnsOff entries "b" ∧ ¬ TurnsOff entries "a" := by
  obtain ⟨entries, hholds, ⟨-, -, henabled⟩, -⟩ := settings_of_load (Disk.ofDirectory "p" sample)
    ⟨.root, ["p"]⟩ sampleClasses [.register 0, .register 1] sampleConfig load_sample
  have hoff : TurnsOff entries "b" := by
    by_contra hnot
    exact absurd ((henabled "b" (by decide)).2 (.inr (.inr hnot))) (by decide)
  have hon : ¬ TurnsOff entries "a" := by
    simpa using (henabled "a" (by decide)).1 List.mem_cons_self
  exact ⟨load_sample, entries, hholds, hoff, hon⟩

end ThemeLint.Config
