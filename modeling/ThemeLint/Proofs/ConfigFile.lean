import Mathlib.Data.List.TakeWhile
import ThemeLint.Config
import ThemeLint.Proofs.Walk

/-!
Configuration files that give no configuration. Most are refused as what they are, but some failures
escape: of bytes that are no UTF-8, of YAML without a value, and of numbers that are too long to be
written in a warning.
-/

set_option autoImplicit false

namespace ThemeLint

theorem Text.mem_of_mem_joinPieces {α : Type} {sep a : α} {ps : List (List α)}
    (h : a ∈ joinPieces sep ps) : a = sep ∨ ∃ p ∈ ps, a ∈ p := by
  induction ps with
  | nil => cases h
  | cons p ps ih =>
    cases ps with
    | nil => exact .inr ⟨p, List.mem_cons_self, h⟩
    | cons q qs =>
      rw [joinPieces_cons sep p (List.cons_ne_nil q qs), List.mem_append, List.mem_cons] at h
      rcases h with h | h | h
      · exact .inr ⟨p, List.mem_cons_self, h⟩
      · exact .inl h
      · exact (ih h).imp_right fun ⟨r, hr, ha⟩ => ⟨r, List.mem_cons_of_mem p hr, ha⟩

theorem Path.mem_points_text {p : Path} {x : CodePoint} (h : x ∈ p.text.points) :
    (∃ c, x = .char c) ∨ ∃ part ∈ p.parts, x ∈ part.points := by
  have hstring {s : String} (hs : x ∈ (WideText.ofString s).points) : ∃ c, x = .char c := by
    obtain ⟨c, -, rfl⟩ := List.mem_map.1 hs
    exact ⟨c, rfl⟩
  unfold text at h
  split at h
  · exact .inl (hstring h)
  · rcases List.mem_append.1 h with hanchor | hparts
    · exact .inl (hstring hanchor)
    · rcases Text.mem_of_mem_joinPieces hparts with rfl | ⟨points, hpoints, hx⟩
      · exact .inl ⟨_, rfl⟩
      · obtain ⟨part, hpart, rfl⟩ := List.mem_map.1 hpoints
        exact .inr ⟨part, hpart, hx⟩

namespace Disk

theorem pathFault?_of_nameable {p : Path} (h : p.parts.all (·.points.all isNameable) = true) :
    pathFault? p = none := by
  have hpoint {part : WideText} {x : CodePoint} (hpart : part ∈ p.parts) (hx : x ∈ part.points) :
      Text.Utf8.isEncodable x = true ∧ (x != .char '\x00') = true := by
    have hall := List.all_eq_true.1 (List.all_eq_true.1 h part hpart) x hx
    simpa only [isNameable, Bool.and_eq_true] using hall
  have hencodable : ∀ x ∈ p.text.points, Text.Utf8.isEncodable x = true := by
    intro x hx
    rcases Path.mem_points_text hx with ⟨c, rfl⟩ | ⟨part, hpart, hin⟩
    · rfl
    · exact (hpoint hpart hin).1
  have hnul : hasNul p = false := by
    refine List.any_eq_false.2 fun part hpart hin => ?_
    exact absurd (hpoint hpart (List.contains_iff_mem.1 hin)).2 (by decide)
  simp [pathFault?, Text.Utf8.halfFault?, List.dropWhile_eq_nil_iff.2 hencodable, hnul]

theorem bytesAt_of_isFile {d : Disk} {p : Path} (h : d.isFile p = .ok true) :
    (∃ bytes, d.bytesAt p = .ok bytes) ∨ d.bytesAt p = .error (.file ⟨.denied, p.text⟩) := by
  obtain ⟨hnameable, node, hnode, hkind⟩ := (isA_eq_true_iff d _ p).1 h
  have hfault := pathFault?_of_nameable hnameable
  cases node with
  | file content => exact .inl ⟨content, by simp [bytesAt, hfault, hnode]⟩
  | locked => exact .inr (by simp [bytesAt, hfault, hnode])
  | directory => cases hkind
  | link target => cases hkind

end Disk

theorem Yaml.Scalar.label_eq_error_iff (key : Yaml.Scalar) (why : Yaml.Fault) :
    key.label = .error why ↔ why = .tooLongToWrite ∧ ∃ n : Int, key = .int n ∧
      Numeral.digitLimit < (Nat.toDigits 10 n.natAbs).length := by
  cases key with
  | int n =>
    by_cases hlong : Numeral.digitLimit < (Nat.toDigits 10 n.natAbs).length
    · simp [label, hlong, eq_comm]
    · simp [label, hlong]
  | _ => simp [label]

theorem Yaml.load_ne_meaningless (text : String) :
    Yaml.load text ≠ .error (.fault .meaningless) := by
  unfold load
  split
  next why _ => cases why <;> simp [LoadFault.ofMalformed]
  next =>
    split
    · simp
    · split
      next why _ => cases why <;> simp [LoadFault.ofFault]
      next => simp

namespace Config

variable {d : Disk} {known : List String} {dir : Path} {entries : Entries}

/-- Why an entry ends the search for the checks to switch off, if it does. -/
def entryFailure? (file : Path) (entry : Yaml.Scalar × Yaml.Value) : Option Failure :=
  if isReserved entry.1 then none
  else match entry.1.label with
    | .error why => some (.yaml why)
    | .ok label => if isSection entry.2 then none else some (.config file (.sectionNotMapping label))

def namesOff (known : List String) (entries : Entries) : List String :=
  entries.filterMap fun entry =>
    if isReserved entry.1 || !switchesOff entry.2 then none
    else known.find? fun (name : String) => entry.1 = .str name

theorem switchedOff_cons_result (file : Path) (known : List String)
    (entry : Yaml.Scalar × Yaml.Value) (rest : Entries) :
    (switchedOff file known (entry :: rest)).result =
      match entryFailure? file entry with
      | some failure => .error failure
      | none => (switchedOff file known rest).result.map (namesOff known [entry] ++ ·) := by
  obtain ⟨key, value⟩ := entry
  rw [switchedOff]
  by_cases hreserved : isReserved key = true
  · cases hrest : (switchedOff file known rest).result <;>
      simp [hreserved, hrest, entryFailure?, namesOff, Except.map]
  · cases hlabel : key.label with
    | error why => simp [hreserved, hlabel, entryFailure?, Traced.result_bind, Except.bind]
    | ok label =>
      cases hsection : isSection value with
      | false =>
        simp [hreserved, hlabel, hsection, entryFailure?, Traced.result_bind, Except.bind]
      | true =>
        cases hfind : known.find? fun (name : String) => key = .str name with
        | none =>
          cases hrest : (switchedOff file known rest).result <;>
            simp [hreserved, hlabel, hsection, hfind, hrest, entryFailure?, namesOff,
              Traced.result_bind, Except.bind, Except.map, Traced.warning, Traced.leave]
        | some name =>
          cases hrest : (switchedOff file known rest).result <;>
            cases hoff : switchesOff value <;>
              simp [hreserved, hlabel, hsection, hfind, hrest, hoff, entryFailure?, namesOff,
                Traced.result_bind, Except.bind, Except.map]

theorem switchedOff_result (file : Path) (known : List String) (entries : Entries) :
    (switchedOff file known entries).result =
      match entries.findSome? (entryFailure? file) with
      | some failure => .error failure
      | none => .ok (namesOff known entries) := by
  induction entries with
  | nil => rfl
  | cons entry rest ih =>
    have hoff : namesOff known (entry :: rest) = namesOff known [entry] ++ namesOff known rest := by
      rw [namesOff, namesOff, namesOff, ← List.filterMap_append, List.singleton_append]
    rw [switchedOff_cons_result, ih, List.findSome?_cons, hoff]
    cases entryFailure? file entry with
    | some failure => rfl
    | none => cases rest.findSome? (entryFailure? file) <;> rfl

/-- What entries come to: what they say about the root is looked at first, then what is to be left
out, then the sections. -/
theorem ofEntries_result (known : List String) (dir : Path) (source : Option Path)
    (entries : Entries) :
    (ofEntries known dir source entries).result =
      match rootOf dir entries, ignoreOf entries,
        entries.findSome? (entryFailure? (dir.child fileName)) with
      | .error fault, _, _ => .error (.config (dir.child fileName) fault)
      | .ok _, .error fault, _ => .error (.config (dir.child fileName) fault)
      | .ok _, .ok _, some failure => .error failure
      | .ok root, .ok ignore, none =>
        .ok ⟨root, known.filter (!(namesOff known entries).contains ·), ignore, source⟩ := by
  unfold ofEntries
  simp only [Traced.result_bind, Traced.result_ofExcept, switchedOff_result]
  cases rootOf dir entries with
  | error fault => rfl
  | ok root =>
    cases ignoreOf entries with
    | error fault => rfl
    | ok ignore => cases entries.findSome? (entryFailure? (dir.child fileName)) <;> rfl

theorem load_of_file (known : List String) (h : d.isFile (dir.child fileName) = .ok true) :
    (load d known dir).result = (readEntries d (dir.child fileName)).bind fun entries =>
      (ofEntries known dir (some (dir.child fileName)) entries).result := by
  unfold load
  simp only [Traced.ask, Traced.result_bind, Traced.result_ofExcept, h, Traced.mapError_ok,
    Except.bind, if_true]

/-- The failures that loading lets through as they come. -/
inductive Escapes (d : Disk) (dir : Path) : Failure → Prop where
  | notUtf8 {bytes : List UInt8} {fault : Text.Utf8.Fault} :
      d.bytesAt (dir.child fileName) = .ok bytes → Text.Utf8.decode bytes = .error fault →
      Escapes d dir (.read (.notUtf8 fault))
  | noValue {text : String} {why : Yaml.Fault} :
      d.textAt (dir.child fileName) = .ok text → Yaml.load text = .error (.fault why) →
      Escapes d dir (.yaml why)
  /-- The entries are in order up to one whose key is a number with too many digits. -/
  | longKey {before later : Entries} {n : Int} {value : Yaml.Value} {root : Path}
      {ignore : List WideText} :
      readEntries d (dir.child fileName) = .ok (before ++ (.int n, value) :: later) →
      rootOf dir (before ++ (.int n, value) :: later) = .ok root →
      ignoreOf (before ++ (.int n, value) :: later) = .ok ignore →
      (∀ entry ∈ before, entryFailure? (dir.child fileName) entry = none) →
      Numeral.digitLimit < (Nat.toDigits 10 n.natAbs).length →
      Escapes d dir (.yaml .tooLongToWrite)

theorem readEntries_cases (h : d.isFile (dir.child fileName) = .ok true) :
    (∃ entries, readEntries d (dir.child fileName) = .ok entries) ∨
    (∃ fault, readEntries d (dir.child fileName) = .error (.config (dir.child fileName) fault)) ∨
    (∃ failure, readEntries d (dir.child fileName) = .error failure ∧ Escapes d dir failure) := by
  rcases Disk.bytesAt_of_isFile h with ⟨bytes, hbytes⟩ | hlocked
  · cases hdecode : Text.Utf8.decode bytes with
    | error fault =>
      refine .inr (.inr ⟨_, ?_, .notUtf8 hbytes hdecode⟩)
      simp [readEntries, Disk.textAt, hbytes, hdecode]
    | ok chars =>
      have htext : d.textAt (dir.child fileName) =
          .ok (String.ofList (Text.unifyLineEnds chars)) := by
        simp [Disk.textAt, hbytes, hdecode]
      cases hload : Yaml.load (String.ofList (Text.unifyLineEnds chars)) with
      | error why =>
        cases why with
        | malformed => exact .inr (.inl ⟨.malformed, by simp [readEntries, htext, hload]⟩)
        | fault why =>
          exact .inr (.inr ⟨_, by simp [readEntries, htext, hload], .noValue htext hload⟩)
      | ok value =>
        cases hentries : entriesOf value with
        | error fault =>
          exact .inr (.inl ⟨fault, by simp [readEntries, htext, hload, hentries]⟩)
        | ok entries => exact .inl ⟨entries, by simp [readEntries, htext, hload, hentries]⟩
  · refine .inr (.inl ⟨.unreadable ⟨.denied, (dir.child fileName).text⟩, ?_⟩)
    simp [readEntries, Disk.textAt, hlocked]

theorem entryFailure?_cases {file : Path} {entry : Yaml.Scalar × Yaml.Value} {failure : Failure}
    (h : entryFailure? file entry = some failure) :
    (∃ label, failure = .config file (.sectionNotMapping label)) ∨
    (failure = .yaml .tooLongToWrite ∧ ∃ n : Int, entry.1 = .int n ∧
      Numeral.digitLimit < (Nat.toDigits 10 n.natAbs).length) := by
  unfold entryFailure? at h
  split at h
  · cases h
  · split at h
    next why hlabel =>
      obtain ⟨rfl, hlong⟩ := (Yaml.Scalar.label_eq_error_iff entry.1 why).1 hlabel
      exact .inr ⟨(Option.some.inj h).symm, hlong⟩
    next label hlabel =>
      split at h
      · cases h
      · exact .inl ⟨label, (Option.some.inj h).symm⟩

theorem entryFailure?_of_longKey (file : Path) {n : Int} (value : Yaml.Value)
    (hlong : Numeral.digitLimit < (Nat.toDigits 10 n.natAbs).length) :
    entryFailure? file (.int n, value) = some (.yaml .tooLongToWrite) := by
  have hlabel := (Yaml.Scalar.label_eq_error_iff (.int n) _).2 ⟨rfl, n, rfl, hlong⟩
  simp [entryFailure?, isReserved, hlabel]

theorem load_of_escapes (known : List String) (h : d.isFile (dir.child fileName) = .ok true)
    {failure : Failure} (hescapes : Escapes d dir failure) :
    (load d known dir).result = .error failure := by
  rw [load_of_file known h]
  cases hescapes with
  | notUtf8 hbytes hdecode => simp [readEntries, Disk.textAt, hbytes, hdecode, Except.bind]
  | noValue htext hload => simp [readEntries, htext, hload, Except.bind]
  | @longKey before later n value root ignore hentries hroot hignore hbefore hlong =>
    have hfirst : (before ++ (.int n, value) :: later).findSome?
        (entryFailure? (dir.child fileName)) = some (.yaml .tooLongToWrite) :=
      List.findSome?_eq_some_iff.2
        ⟨before, _, later, rfl, entryFailure?_of_longKey _ value hlong, hbefore⟩
    rw [hentries]
    simp only [Except.bind, ofEntries_result, hroot, hignore, hfirst]

theorem Escapes.kind_ne {failure : Failure} (h : Escapes d dir failure) :
    failure.kind ≠ .config ∧ failure.kind ≠ .malformedYaml ∧
      ∀ refusal, failure.kind ≠ .system refusal := by
  cases h with
  | notUtf8 hbytes hdecode => simp [Failure.kind, ReadFault.kind]
  | @noValue text why htext hload =>
    cases why with
    | meaningless => exact absurd hload (Yaml.load_ne_meaningless text)
    | _ => simp [Failure.kind, Yaml.Fault.kind]
  | longKey => simp [Failure.kind, Yaml.Fault.kind]

/-- Whatever stands in a configuration file, it is refused by its path if it gives no configuration,
unless the failure is one that escapes. What escapes always does, and is neither a fault of the
system nor YAML that is malformed. -/
theorem load_failure_of_file (known : List String)
    (h : d.isFile (dir.child fileName) = .ok true) :
    (∀ failure, (load d known dir).result = .error failure →
      (∃ fault, failure = .config (dir.child fileName) fault) ∨ Escapes d dir failure) ∧
    (∀ failure, Escapes d dir failure →
      (load d known dir).result = .error failure ∧ failure.kind ≠ .config ∧
        failure.kind ≠ .malformedYaml ∧ ∀ refusal, failure.kind ≠ .system refusal) := by
  refine ⟨fun failure hfailure => ?_, fun failure hescapes =>
    ⟨load_of_escapes known h hescapes, hescapes.kind_ne⟩⟩
  rw [load_of_file known h] at hfailure
  rcases readEntries_cases h with ⟨entries, hread⟩ | ⟨fault, hread⟩ | ⟨escaped, hread, hescapes⟩
  · rw [hread] at hfailure
    simp only [Except.bind, ofEntries_result] at hfailure
    split at hfailure
    next => exact .inl ⟨_, (Except.error.inj hfailure).symm⟩
    next => exact .inl ⟨_, (Except.error.inj hfailure).symm⟩
    next root ignore first hroot hignore hfirst =>
      obtain rfl := Except.error.inj hfailure
      obtain ⟨before, entry, later, heq, hentry, hbefore⟩ := List.findSome?_eq_some_iff.1 hfirst
      subst heq
      rcases entryFailure?_cases hentry with ⟨label, hlabel⟩ | ⟨hlabel, n, hkey, hlong⟩
      · exact .inl ⟨_, hlabel⟩
      · obtain ⟨key, value⟩ := entry
        subst hkey hlabel
        exact .inr (.longKey hread hroot hignore hbefore hlong)
    next => cases hfailure
  · rw [hread] at hfailure
    exact .inl ⟨fault, (Except.error.inj hfailure).symm⟩
  · rw [hread] at hfailure
    obtain rfl := Except.error.inj hfailure
    exact .inr hescapes

def strayByte : List (WideText × Node) := [(fileName, .file [0xff])]

theorem isPlain_strayByte : Disk.IsPlain "p" strayByte where
  names := by decide
  distinct := by decide
  nodes := by decide

theorem isFile_strayByte :
    (Disk.ofDirectory "p" strayByte).isFile ((⟨.root, ["p"]⟩ : Path).child fileName) = .ok true :=
  Disk.isA_ofDirectory isPlain_strayByte 0 (p := ⟨.root, ["p", fileName]⟩) rfl (by decide)
    (Disk.get?_ofDirectory_of_mem isPlain_strayByte List.mem_cons_self) rfl _

theorem escapes_strayByte :
    Escapes (Disk.ofDirectory "p" strayByte) ⟨.root, ["p"]⟩
      (.read (.notUtf8 ⟨0, 0xff, 1, .invalidStart⟩)) := by
  have hget := Disk.get?_ofDirectory_of_mem isPlain_strayByte List.mem_cons_self
  have hbytes : (Disk.ofDirectory "p" strayByte).bytesAt
      ((⟨.root, ["p"]⟩ : Path).child fileName) = .ok [0xff] :=
    Disk.bytesAt_ofDirectory isPlain_strayByte 0 rfl (by decide) (by decide) hget
  exact .notUtf8 hbytes rfl

theorem load_failure_of_strayByte :
    (Disk.ofDirectory "p" strayByte).isFile ((⟨.root, ["p"]⟩ : Path).child fileName) = .ok true ∧
    (load (Disk.ofDirectory "p" strayByte) [] ⟨.root, ["p"]⟩).result =
      .error (.read (.notUtf8 ⟨0, 0xff, 1, .invalidStart⟩)) :=
  ⟨isFile_strayByte, ((load_failure_of_file [] isFile_strayByte).2 _ escapes_strayByte).1⟩

theorem not_refuses_strayByte :
    ¬ ∀ (d : Disk) (known : List String) (dir : Path) (failure : Failure),
      d.isFile (dir.child fileName) = .ok true → (load d known dir).result = .error failure →
        ∃ fault, failure = .config (dir.child fileName) fault := by
  intro h
  have hfailure := load_of_escapes [] isFile_strayByte escapes_strayByte
  obtain ⟨fault, heq⟩ := h _ _ _ _ isFile_strayByte hfailure
  cases heq

end Config

end ThemeLint
