import ThemeLint.Proofs.Settings

/-!
Which values of a configuration file are accepted, and for what the others are refused. The format
says what may stand under each key. Two things are not as it says: whatever does not hold may stand
for the patterns, and a key that is a number too long to be written fails as such.
-/

set_option autoImplicit false

namespace ThemeLint.Config

variable {d : Disk} {dir file : Path} {entries : Entries} {entry : Yaml.Scalar × Yaml.Value}
  {value : Yaml.Value}

inductive Texts : Yaml.Value → Prop where
  | list (texts : List WideText) : Texts (.list (texts.map fun text => .scalar (.str text)))
  /-- A list of pairs without any. -/
  | noPairs : Texts (.pairs [])

/-- What may stand under the name of a check. -/
inductive SectionLike : Yaml.Value → Prop where
  | null : SectionLike .null
  | mapping (fields : Entries) : SectionLike (.mapping fields)
  /-- A mapping that stands in itself. -/
  | loop : SectionLike (.loop .mapping)

theorem isSection_iff (value : Yaml.Value) : isSection value = true ↔ SectionLike value := by
  constructor
  · intro h
    unfold isSection at h
    rcases Bool.or_eq_true _ _ ▸ h with hmapping | hnull
    · unfold Yaml.Value.isMapping at hmapping
      split at hmapping
      · exact .mapping _
      · exact .loop
      · cases hmapping
    · split at hnull
      · exact .null
      · cases hnull
  · intro h
    cases h <;> rfl

/-- A key that can be inserted in a message: no number with too many digits. -/
def IsWritable (key : Yaml.Scalar) : Prop :=
  ∀ n, key = .int n → (Nat.toDigits 10 n.natAbs).length ≤ Numeral.digitLimit

theorem not_isWritable_iff (key : Yaml.Scalar) :
    ¬ IsWritable key ↔ key.label = .error .tooLongToWrite := by
  simp [Yaml.Scalar.label_eq_error_iff, IsWritable]

theorem isWritable_of_label {key : Yaml.Scalar} {label : WideText} (h : key.label = .ok label) :
    IsWritable key := by
  by_contra hnot
  rw [(not_isWritable_iff key).1 hnot] at h
  cases h

def RootIsText (entries : Entries) : Prop :=
  ∀ value, entries.lookup (.str "root") = some value → ∃ text, value = .scalar (.str text)

def IgnoreIs (Q : Yaml.Value → Prop) (entries : Entries) : Prop :=
  ∀ value, entries.lookup (.str "ignore") = some value → Q value

def CanStandForIgnore (value : Yaml.Value) : Prop := value.holds = false ∨ Texts value

/-- An entry that is not about a check, or whose key can be written and whose value is a section. -/
def InOrder (entry : Yaml.Scalar × Yaml.Value) : Prop :=
  isReserved entry.1 = false → IsWritable entry.1 ∧ SectionLike entry.2

/-- The documented format of a configuration file. -/
inductive IsDocumented : Yaml.Value → Prop where
  | empty : IsDocumented .null
  | mapping {entries : Entries} : RootIsText entries →
      IgnoreIs (fun value => value = .null ∨ Texts value) entries →
      (∀ entry ∈ entries, isReserved entry.1 = false → SectionLike entry.2) →
      IsDocumented (.mapping entries)

/-- The format that is accepted. -/
inductive IsAccepted : Yaml.Value → Prop where
  | empty : IsAccepted .null
  | mapping {entries : Entries} : RootIsText entries →
      IgnoreIs CanStandForIgnore entries →
      (∀ entry ∈ entries, InOrder entry) → IsAccepted (.mapping entries)

/-- For what a value is refused. The shape of the whole is looked at first, then the root, then the
patterns; of the sections, the first that is not in order decides. -/
inductive Refuses (file : Path) : Yaml.Value → Failure → Prop where
  | shape {value : Yaml.Value} : value ≠ .null → (∀ entries, value ≠ .mapping entries) →
      Refuses file value (.config file .notMapping)
  | root {entries : Entries} : ¬ RootIsText entries →
      Refuses file (.mapping entries) (.config file .rootNotText)
  | ignore {entries : Entries} : RootIsText entries →
      ¬ IgnoreIs CanStandForIgnore entries →
      Refuses file (.mapping entries) (.config file .ignoreNotTexts)
  | entry {entries : Entries} {entry : Yaml.Scalar × Yaml.Value} {label : WideText} :
      RootIsText entries → IgnoreIs CanStandForIgnore entries →
      IsFirst (¬ InOrder ·) entries entry → entry.1.label = .ok label →
      Refuses file (.mapping entries) (.config file (.sectionNotMapping label))
  | longKey {entries : Entries} {entry : Yaml.Scalar × Yaml.Value} :
      RootIsText entries → IgnoreIs CanStandForIgnore entries →
      IsFirst (¬ InOrder ·) entries entry → ¬ IsWritable entry.1 →
      Refuses file (.mapping entries) (.yaml .tooLongToWrite)

theorem rootOf_cases (dir : Path) (entries : Entries) :
    (RootIsText entries ∧ ∃ root, rootOf dir entries = .ok root) ∨
    (¬ RootIsText entries ∧ rootOf dir entries = .error .rootNotText) := by
  unfold rootOf RootIsText
  split
  next hnone => exact .inl ⟨by simp [hnone], _, rfl⟩
  next text htext => exact .inl ⟨by simp [htext], _, rfl⟩
  next value hother hvalue =>
    refine .inr ⟨fun h => ?_, rfl⟩
    obtain ⟨text, rfl⟩ := h value hvalue
    exact hother text rfl

theorem texts_list_iff (values : List Yaml.Value) :
    Texts (.list values) ↔ ∃ texts, textsOf values = some texts := by
  constructor
  · intro h
    cases h with
    | list texts =>
      induction texts with
      | nil => exact ⟨[], rfl⟩
      | cons text texts ih =>
        obtain ⟨found, hfound⟩ := ih
        exact ⟨text :: found, by simp [textsOf, hfound]⟩
  · intro h
    obtain ⟨texts, htexts⟩ := h
    rw [textsOf_eq_some htexts]
    exact .list texts

theorem ignoreOf_cases (entries : Entries) :
    (IgnoreIs CanStandForIgnore entries ∧
      ∃ texts, ignoreOf entries = .ok texts) ∨
    (¬ IgnoreIs CanStandForIgnore entries ∧
      ignoreOf entries = .error .ignoreNotTexts) := by
  unfold ignoreOf IgnoreIs CanStandForIgnore
  cases hlookup : entries.lookup (.str "ignore") with
  | none => exact .inl ⟨nofun, [], rfl⟩
  | some value =>
    simp only [Option.some.injEq, forall_eq']
    cases hholds : value.holds with
    | false => exact .inl ⟨.inl rfl, [], rfl⟩
    | true =>
      simp only [Bool.not_true, Bool.false_eq_true, if_false, Bool.true_eq_false, false_or]
      cases value with
      | list values =>
        cases htexts : textsOf values with
        | some texts =>
          exact .inl ⟨(texts_list_iff values).2 ⟨texts, htexts⟩, texts, by simp [htexts]⟩
        | none =>
          refine .inr ⟨fun h => ?_, by simp [htexts]⟩
          obtain ⟨texts, hsome⟩ := (texts_list_iff values).1 h
          rw [htexts] at hsome
          cases hsome
      | pairs items =>
        -- The one list of pairs that is a list of texts is empty and does not hold.
        refine .inr ⟨fun h => ?_, rfl⟩
        cases h
        cases hholds
      | _ => exact .inr ⟨nofun, rfl⟩

theorem entryFailure?_eq_none_iff (file : Path) (entry : Yaml.Scalar × Yaml.Value) :
    entryFailure? file entry = none ↔ InOrder entry := by
  unfold entryFailure? InOrder
  cases hreserved : isReserved entry.1 with
  | true => simp
  | false =>
    cases hlabel : entry.1.label with
    | error why =>
      -- A number names no check, so its key is written in a message whatever its section is.
      obtain ⟨rfl, -⟩ := (Yaml.Scalar.label_eq_error_iff _ _).1 hlabel
      simp [(not_isWritable_iff _).2 hlabel]
    | ok label => simp [isWritable_of_label hlabel, isSection_iff]

theorem entryFailure?_eq_some_iff (file : Path) (h : ¬ InOrder entry) (failure : Failure) :
    entryFailure? file entry = some failure ↔
      (∃ label, entry.1.label = .ok label ∧ failure = .config file (.sectionNotMapping label)) ∨
      (¬ IsWritable entry.1 ∧ failure = .yaml .tooLongToWrite) := by
  have hreserved : isReserved entry.1 = false := by
    by_contra hnot
    exact h fun hreserved => absurd hreserved hnot
  have hsection (hwritable : IsWritable entry.1) : isSection entry.2 = false := by
    rw [Bool.eq_false_iff, ne_eq, isSection_iff]
    exact fun hlike => h fun _ => ⟨hwritable, hlike⟩
  unfold entryFailure?
  cases hlabel : entry.1.label with
  | error why =>
    obtain ⟨rfl, -⟩ := (Yaml.Scalar.label_eq_error_iff _ _).1 hlabel
    simp [hreserved, (not_isWritable_iff _).2 hlabel, eq_comm]
  | ok label =>
    have hwritable := isWritable_of_label hlabel
    simp [hreserved, hwritable, hsection hwritable, eq_comm]

theorem findSome?_entryFailure?_eq_some_iff (file : Path) (entries : Entries) (failure : Failure) :
    entries.findSome? (entryFailure? file) = some failure ↔
      ∃ entry, IsFirst (¬ InOrder ·) entries entry ∧ entryFailure? file entry = some failure := by
  simp only [List.findSome?_eq_some_iff, entryFailure?_eq_none_iff, IsFirst, not_not]
  constructor
  · intro h
    obtain ⟨before, entry, later, heq, hentry, hbefore⟩ := h
    have hnot : ¬ InOrder entry := by
      rw [← entryFailure?_eq_none_iff file, hentry]
      exact Option.some_ne_none failure
    exact ⟨entry, ⟨before, later, heq, hnot, hbefore⟩, hentry⟩
  · intro h
    obtain ⟨entry, ⟨before, later, heq, -, hbefore⟩, hentry⟩ := h
    exact ⟨before, entry, later, heq, hentry, hbefore⟩

/-- Entries come to a configuration if they are accepted, and otherwise to what they are refused
for. -/
theorem ofEntries_cases (known : List String) (dir : Path) (source : Option Path)
    (entries : Entries) :
    (IsAccepted (.mapping entries) ∧
      ∃ config, (ofEntries known dir source entries).result = .ok config) ∨
    ∃ failure, Refuses (dir.child fileName) (.mapping entries) failure ∧
      (ofEntries known dir source entries).result = .error failure := by
  rw [ofEntries_result]
  rcases rootOf_cases dir entries with ⟨hroot, root, hrootOf⟩ | ⟨hroot, hrootOf⟩
  · rcases ignoreOf_cases entries with ⟨hignore, ignore, hignoreOf⟩ | ⟨hignore, hignoreOf⟩
    · rw [hrootOf, hignoreOf]
      cases hsearch : entries.findSome? (entryFailure? (dir.child fileName)) with
      | none =>
        have hall : ∀ entry ∈ entries, InOrder entry := by
          simpa only [List.findSome?_eq_none_iff, entryFailure?_eq_none_iff] using hsearch
        exact .inl ⟨.mapping hroot hignore hall, _, rfl⟩
      | some failure =>
        obtain ⟨entry, hfirst, hentry⟩ := (findSome?_entryFailure?_eq_some_iff _ _ _).1 hsearch
        refine .inr ⟨failure, ?_, rfl⟩
        rcases (entryFailure?_eq_some_iff _ hfirst.holds _).1 hentry with
          ⟨label, hlabel, rfl⟩ | ⟨hlong, rfl⟩
        · exact .entry hroot hignore hfirst hlabel
        · exact .longKey hroot hignore hfirst hlong
    · rw [hrootOf, hignoreOf]
      exact .inr ⟨_, .ignore hroot hignore, rfl⟩
  · rw [hrootOf]
    exact .inr ⟨_, .root hroot, rfl⟩

theorem Refuses.not_isAccepted {failure : Failure} (h : Refuses file value failure) :
    ¬ IsAccepted value := by
  intro haccepted
  cases haccepted with
  | empty =>
    cases h with
    | shape hnull => exact hnull rfl
  | mapping hroot hignore hall =>
    cases h with
    | shape _ hmapping => exact hmapping _ rfl
    | root hnot => exact hnot hroot
    | ignore _ hnot => exact hnot hignore
    | entry _ _ hfirst => exact hfirst.holds (hall _ hfirst.mem)
    | longKey _ _ hfirst => exact hfirst.holds (hall _ hfirst.mem)

theorem ofEntries_of_refuses (known : List String) (source : Option Path) {failure : Failure}
    (h : Refuses (dir.child fileName) (.mapping entries) failure) :
    (ofEntries known dir source entries).result = .error failure := by
  have hsections {entry : Yaml.Scalar × Yaml.Value} (hroot : RootIsText entries)
      (hignore : IgnoreIs CanStandForIgnore entries)
      (hfirst : IsFirst (¬ InOrder ·) entries entry)
      (hentry : entryFailure? (dir.child fileName) entry = some failure) :
      (ofEntries known dir source entries).result = .error failure := by
    obtain ⟨-, root, hrootOf⟩ := (rootOf_cases dir entries).resolve_right fun h => h.1 hroot
    obtain ⟨-, ignore, hignoreOf⟩ := (ignoreOf_cases entries).resolve_right fun h => h.1 hignore
    rw [ofEntries_result, hrootOf, hignoreOf,
      (findSome?_entryFailure?_eq_some_iff _ _ _).2 ⟨entry, hfirst, hentry⟩]
  cases h with
  | shape _ hmapping => exact absurd rfl (hmapping entries)
  | root hnot =>
    have hrootOf := ((rootOf_cases dir entries).resolve_left fun h => hnot h.1).2
    rw [ofEntries_result, hrootOf]
  | ignore hroot hnot =>
    obtain ⟨-, root, hrootOf⟩ := (rootOf_cases dir entries).resolve_right fun h => h.1 hroot
    have hignoreOf := ((ignoreOf_cases entries).resolve_left fun h => hnot h.1).2
    rw [ofEntries_result, hrootOf, hignoreOf]
  | entry hroot hignore hfirst hlabel =>
    exact hsections hroot hignore hfirst
      ((entryFailure?_eq_some_iff _ hfirst.holds _).2 (.inl ⟨_, hlabel, rfl⟩))
  | longKey hroot hignore hfirst hlong =>
    exact hsections hroot hignore hfirst
      ((entryFailure?_eq_some_iff _ hfirst.holds _).2 (.inr ⟨hlong, rfl⟩))

def HasWritableKeys (value : Yaml.Value) : Prop :=
  ∀ entries, value = .mapping entries → ∀ entry ∈ entries, IsWritable entry.1

/-- What stands for the patterns is neither null nor a list of texts, but does not hold. -/
def HasBlankIgnore (value : Yaml.Value) : Prop :=
  ∃ entries blank, value = .mapping entries ∧ entries.lookup (.str "ignore") = some blank ∧
    blank.holds = false ∧ blank ≠ .null ∧ ¬ Texts blank

theorem IsDocumented.isAccepted (h : IsDocumented value) (hkeys : HasWritableKeys value) :
    IsAccepted value := by
  cases h with
  | empty => exact .empty
  | mapping hroot hignore hsections =>
    refine .mapping hroot (fun value hvalue => ?_) fun entry hentry hreserved =>
      ⟨hkeys _ rfl entry hentry, hsections entry hentry hreserved⟩
    rcases hignore value hvalue with rfl | htexts
    · exact .inl rfl
    · exact .inr htexts

theorem IsAccepted.isDocumented (h : IsAccepted value) :
    IsDocumented value ∨ HasBlankIgnore value := by
  cases h with
  | empty => exact .inl .empty
  | @mapping entries hroot hignore hall =>
    by_cases hblank : HasBlankIgnore (.mapping entries)
    · exact .inr hblank
    · refine .inl (.mapping hroot (fun value hvalue => ?_) fun entry hentry hreserved =>
        (hall entry hentry hreserved).2)
      by_contra hnot
      rw [not_or] at hnot
      have hholds := (hignore value hvalue).resolve_right hnot.2
      exact hblank ⟨entries, value, rfl, hvalue, hholds, hnot.1, hnot.2⟩

theorem Refuses.eq_config {failure : Failure} (h : Refuses file value failure)
    (hkeys : HasWritableKeys value) : ∃ fault, failure = .config file fault := by
  cases h with
  | longKey _ _ hfirst hlong => exact absurd (hkeys _ rfl _ hfirst.mem) hlong
  | _ => exact ⟨_, rfl⟩

theorem entriesOf_cases (value : Yaml.Value) :
    (value = .null ∧ entriesOf value = .ok []) ∨
    (∃ entries, value = .mapping entries ∧ entriesOf value = .ok entries) ∨
    (value ≠ .null ∧ (∀ entries, value ≠ .mapping entries) ∧
      entriesOf value = .error .notMapping) := by
  unfold entriesOf
  split
  next entries => exact .inr (.inl ⟨entries, rfl, rfl⟩)
  next => exact .inl ⟨rfl, rfl⟩
  next hmapping hnull => exact .inr (.inr ⟨hnull, hmapping, rfl⟩)

section

variable (known : List String) {text : String} (hfile : d.isFile (dir.child fileName) = .ok true)
  (htext : d.textAt (dir.child fileName) = .ok text) (hvalue : Yaml.load text = .ok value)

include hfile htext hvalue

theorem load_result :
    (load d known dir).result = ((entriesOf value).mapError (.config (dir.child fileName))).bind
      fun entries => (ofEntries known dir (some (dir.child fileName)) entries).result := by
  have hread : readEntries d (dir.child fileName) =
      (entriesOf value).mapError (.config (dir.child fileName)) := by
    simp only [readEntries, htext, hvalue]
  rw [load_of_file known hfile, hread]

theorem load_of_refuses {failure : Failure} (h : Refuses (dir.child fileName) value failure) :
    (load d known dir).result = .error failure := by
  rw [load_result known hfile htext hvalue]
  rcases entriesOf_cases value with ⟨rfl, -⟩ | ⟨entries, rfl, hentries⟩ |
    ⟨hnull, hmapping, hentries⟩
  · exact absurd .empty h.not_isAccepted
  · rw [hentries]
    exact ofEntries_of_refuses known _ h
  · rw [hentries]
    cases h with
    | shape => rfl
    | _ => exact absurd rfl (hmapping _)

theorem load_cases :
    (IsAccepted value ∧ ∃ config, (load d known dir).result = .ok config) ∨
    ∃ failure, Refuses (dir.child fileName) value failure ∧
      (load d known dir).result = .error failure := by
  rw [load_result known hfile htext hvalue]
  rcases entriesOf_cases value with ⟨rfl, hentries⟩ | ⟨entries, rfl, hentries⟩ |
    ⟨hnull, hmapping, hentries⟩
  · have hnone : IsAccepted (.mapping []) := .mapping nofun nofun nofun
    have hconfig := (ofEntries_cases known dir (some (dir.child fileName)) []).resolve_right
      fun ⟨_, hrefuses, _⟩ => hrefuses.not_isAccepted hnone
    rw [hentries]
    exact .inl ⟨.empty, hconfig.2⟩
  · rw [hentries]
    exact ofEntries_cases known dir _ entries
  · rw [hentries]
    exact .inr ⟨_, .shape hnull hmapping, rfl⟩

end

/-- Of the values that a configuration file can have, those that are accepted come to a
configuration, and any other fails for what it is refused for. As long as its keys can be written it
is the file that is refused, and everything in the documented format is accepted; and what is
accepted has that format, but for what does not hold in the place of the patterns. -/
theorem load_of_value (d : Disk) (known : List String) (dir : Path) (text : String)
    (value : Yaml.Value) (hfile : d.isFile (dir.child fileName) = .ok true)
    (htext : d.textAt (dir.child fileName) = .ok text) (hvalue : Yaml.load text = .ok value) :
    let result := (load d known dir).result
    ((∃ config, result = .ok config) ↔ IsAccepted value) ∧
    (∀ failure, result = .error failure ↔ Refuses (dir.child fileName) value failure) ∧
    (HasWritableKeys value → IsDocumented value → ∃ config, result = .ok config) ∧
    (HasWritableKeys value → ∀ failure, result = .error failure →
      ∃ fault, failure = .config (dir.child fileName) fault) ∧
    ∀ config, result = .ok config → IsDocumented value ∨ HasBlankIgnore value := by
  intro result
  have hok : (∃ config, result = .ok config) ↔ IsAccepted value := by
    rcases load_cases known hfile htext hvalue with ⟨haccepted, hconfig⟩ | ⟨failure, hrefuses, heq⟩
    · exact iff_of_true hconfig haccepted
    · refine iff_of_false (fun ⟨config, hconfig⟩ => ?_) hrefuses.not_isAccepted
      cases heq.symm.trans hconfig
  have herror (failure : Failure) :
      result = .error failure ↔ Refuses (dir.child fileName) value failure := by
    refine ⟨fun hfailure => ?_, load_of_refuses known hfile htext hvalue⟩
    rcases load_cases known hfile htext hvalue with ⟨-, config, heq⟩ | ⟨other, hrefuses, heq⟩
    · cases heq.symm.trans hfailure
    · rwa [← Except.error.inj (heq.symm.trans hfailure)]
  exact ⟨hok, herror, fun hkeys hdocumented => hok.2 (hdocumented.isAccepted hkeys),
    fun hkeys failure hfailure => ((herror failure).1 hfailure).eq_config hkeys,
    fun config hconfig => (hok.1 ⟨config, hconfig⟩).isDocumented⟩

def flatEntries? : Entries → Option (List (Yaml.Scalar × Yaml.Scalar))
  | [] => some []
  | (key, .scalar s) :: entries => (flatEntries? entries).map ((key, s) :: ·)
  | _ => none

def flat? : Yaml.Value → Option (List (Yaml.Scalar × Yaml.Scalar))
  | .mapping entries => flatEntries? entries
  | _ => none

theorem eq_of_flatEntries? {flat : List (Yaml.Scalar × Yaml.Scalar)}
    (h : flatEntries? entries = some flat) :
    entries = flat.map fun entry => (entry.1, .scalar entry.2) := by
  fun_induction flatEntries? entries generalizing flat with
  | case1 =>
    cases h
    rfl
  | case2 key s entries ih =>
    obtain ⟨rest, hrest, rfl⟩ := Option.map_eq_some_iff.1 h
    rw [ih hrest, List.map_cons]
  | case3 => cases h

theorem load_eq_of_flat? {text : String} {flat : List (Yaml.Scalar × Yaml.Scalar)}
    (h : (Yaml.load text).toOption.bind flat? = some flat) :
    Yaml.load text = .ok (.mapping (flat.map fun entry => (entry.1, .scalar entry.2))) := by
  cases hload : Yaml.load text with
  | error why =>
    rw [hload] at h
    cases h
  | ok value =>
    rw [hload] at h
    cases value with
    | mapping entries => rw [eq_of_flatEntries? h]
    | _ => cases h

def project (text : String) : Disk := .ofDirectory "p" [(fileName, .file text.toUTF8.toList)]

theorem isPlain_project (text : String) :
    Disk.IsPlain "p" [(fileName, .file text.toUTF8.toList)] where
  names := by
    change ∀ n ∈ [("p" : WideText), fileName], isName n = true ∧ nameSize n ≤ nameLimit
    decide
  distinct := List.nodup_singleton _
  nodes := List.forall_mem_singleton.2 rfl

theorem isFile_project (text : String) :
    (project text).isFile ((⟨.root, ["p"]⟩ : Path).child fileName) = .ok true :=
  Disk.isA_ofDirectory (isPlain_project text) 0 (p := ⟨.root, ["p", fileName]⟩) rfl (by decide)
    (Disk.get?_ofDirectory_of_mem (isPlain_project text) List.mem_cons_self) rfl _

theorem bytesAt_project (text : String) :
    (project text).bytesAt ((⟨.root, ["p"]⟩ : Path).child fileName) = .ok text.toUTF8.toList :=
  Disk.bytesAt_ofDirectory (isPlain_project text) 0 rfl (by decide) (by decide)
    (Disk.get?_ofDirectory_of_mem (isPlain_project text) List.mem_cons_self)

def mixedText : String := "c: ~\nb: 3\na: 4\nroot: t\n"

def mixedEntries : Entries :=
  [(.str "c", .null), (.str "b", .int 3), (.str "a", .int 4), (.str "root", .str "t")].map
    fun entry => (entry.1, .scalar entry.2)

theorem load_mixedText : Yaml.load mixedText = .ok (.mapping mixedEntries) :=
  load_eq_of_flat? (by decide +kernel)

theorem textAt_mixedText :
    (project mixedText).textAt ((⟨.root, ["p"]⟩ : Path).child fileName) = .ok mixedText := by
  rw [Disk.textAt, bytesAt_project]
  decide +kernel

theorem refuses_mixedEntries :
    Refuses ((⟨.root, ["p"]⟩ : Path).child fileName) (.mapping mixedEntries)
      (.config ((⟨.root, ["p"]⟩ : Path).child fileName) (.sectionNotMapping "b")) := by
  have hroot : RootIsText mixedEntries := by
    intro value hvalue
    cases hvalue
    exact ⟨"t", rfl⟩
  have hfirst : IsFirst (¬ InOrder ·) mixedEntries (.str "b", .scalar (.int 3)) := by
    refine ⟨[(.str "c", .null)], _, rfl, fun h => ?_, ?_⟩
    · exact nomatch (h (by decide)).2
    · exact List.forall_mem_singleton.2 (not_not.2 fun _ => ⟨nofun, .null⟩)
  exact .entry hroot nofun hfirst rfl

theorem load_of_mixedEntries :
    (project mixedText).isFile ((⟨.root, ["p"]⟩ : Path).child fileName) = .ok true ∧
    Yaml.load mixedText = .ok (.mapping mixedEntries) ∧
    (load (project mixedText) ["a"] ⟨.root, ["p"]⟩).result =
      .error (.config ((⟨.root, ["p"]⟩ : Path).child fileName) (.sectionNotMapping "b")) := by
  obtain ⟨-, herror, -⟩ := load_of_value (project mixedText) ["a"] ⟨.root, ["p"]⟩ mixedText _
    (isFile_project mixedText) textAt_mixedText load_mixedText
  exact ⟨isFile_project mixedText, load_mixedText, (herror _).2 refuses_mixedEntries⟩

def blankText : String := "ignore: false\n"

def blankEntries : Entries :=
  [(.str "ignore", .bool false)].map fun entry => (entry.1, .scalar entry.2)

theorem load_blankText : Yaml.load blankText = .ok (.mapping blankEntries) :=
  load_eq_of_flat? (by decide +kernel)

theorem textAt_blankText :
    (project blankText).textAt ((⟨.root, ["p"]⟩ : Path).child fileName) = .ok blankText := by
  rw [Disk.textAt, bytesAt_project]
  decide +kernel

theorem not_accepts_documented :
    ¬ ∀ (d : Disk) (known : List String) (dir : Path) (text : String) (value : Yaml.Value),
      d.isFile (dir.child fileName) = .ok true → d.textAt (dir.child fileName) = .ok text →
      Yaml.load text = .ok value →
      ((∃ config, (load d known dir).result = .ok config) ↔ IsDocumented value) := by
  intro h
  have hnot : ¬ IsDocumented (.mapping blankEntries) := by
    intro hdocumented
    cases hdocumented with
    | mapping hroot hignore hsections =>
      rcases hignore (.scalar (.bool false)) rfl with heq | htexts
      · cases heq
      · cases htexts
  have haccepted : IsAccepted (.mapping blankEntries) := by
    refine .mapping nofun (fun value hvalue => ?_) (List.forall_mem_singleton.2 nofun)
    cases hvalue
    exact .inl rfl
  have hload := load_cases [] (isFile_project blankText) textAt_blankText load_blankText
  have hconfig := hload.resolve_right fun ⟨_, hrefuses, _⟩ => hrefuses.not_isAccepted haccepted
  exact hnot ((h _ [] _ _ _ (isFile_project blankText) textAt_blankText load_blankText).1 hconfig.2)

end ThemeLint.Config
