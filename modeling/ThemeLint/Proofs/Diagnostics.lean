import ThemeLint.Proofs.Diagnosis

set_option autoImplicit false

namespace ThemeLint

namespace Coordinate

variable {field : String} {value : Json}

theorem ofJson_eq_ok_iff (field : String) (value : Json) (c : Coordinate) :
    ofJson field value = .ok c ↔ c.toJson = value := by
  constructor
  · intro h
    unfold ofJson at h
    split at h
    · cases h
      rfl
    next n =>
      split_ifs at h with hlimit hsign
      cases h
      rw [toJson, Int.toNat_of_nonneg hsign]
    · cases h
  · rintro rfl
    cases c with
    | number n hn => simp [toJson, ofJson, hn]
    | truth b => rfl

theorem ofJson_eq_error_iff (field : String) (value : Json) (failure : Failure) :
    ofJson field value = .error failure ↔ ¬ InRange value ∧ failure = .outOfRange field value := by
  rw [← exists_ofJson_eq_iff field value]
  have hfails : FailsAs (· = .outOfRange field value) (ofJson field value) := by
    unfold ofJson
    split
    · exact failsAs_ok _
    · split_ifs
      · exact failsAs_ok _
      · exact failsAs_error rfl
      · exact failsAs_error rfl
    · exact failsAs_error rfl
  cases h : ofJson field value with
  | ok c => simp
  | error other => simp [hfails other h, eq_comm]

end Coordinate

namespace Severity

def word (value : Json) : String := (Text.lower value.text).shown

/-- The level that a client is told, and the word that it is told for. -/
inductive Ranks (value : Json) : Nat → Prop where
  | error : word value = "error" → Ranks value 1
  | suggestion : word value = "suggestion" → Ranks value 2
  | style : word value = "style" → Ranks value 3
  | other : word value ∉ ["error", "suggestion", "style"] → Ranks value 4

theorem ranks_number (value : Json) : Ranks value (ofJson value).clientLevel.number := by
  unfold ofJson
  split
  next h => exact .error h
  next h => exact .suggestion h
  next h => exact .style h
  next herror hsuggestion hstyle =>
    refine .other ?_
    simp only [List.mem_cons, List.not_mem_nil, or_false, not_or]
    exact ⟨herror, hsuggestion, hstyle⟩

theorem ofJson_name (severity : Severity) : ofJson (.str severity.name) = severity := by
  cases severity <;> decide +kernel

end Severity

namespace Diagnostic

theorem get?_toJson (d : Diagnostic) :
    d.toJson.get? "range" = some (.obj [("start", positionJson d.startLine d.startCharacter),
      ("end", positionJson d.endLine d.endCharacter)]) ∧
    d.toJson.get? "message" = some (.str d.message) ∧
    d.toJson.get? "severity" = some (.int d.level.number) ∧
    (d.toJson.get? "code").getD .null = d.code ∧
    d.toJson.get? "source" = some (.str diagnosticSource) := by
  obtain ⟨_, _, _, _, _, _, code⟩ := d
  cases code <;> exact ⟨rfl, rfl, rfl, rfl, rfl⟩

/-- What a client reads of a finding. A code that is null is not written. -/
structure Shows (f : Finding) (d : Diagnostic) : Prop where
  range : d.toJson.get? "range" = some (.obj
    [("start", .obj [("line", f.startLine), ("character", f.startColumn)]),
      ("end", .obj [("line", f.endLine), ("character", f.endColumn)])])
  message : d.toJson.get? "message" = some f.message
  code : d.code = f.code ∧ (d.toJson.get? "code").getD .null = f.code
  severity : ∃ n : Nat, d.toJson.get? "severity" = some (.int n) ∧ Severity.Ranks f.severity n
  source : d.toJson.get? "source" = some (.str "theme-check")

/-- What is said of the first field of a finding that a client does not take. -/
inductive Complains (f : Finding) : Failure → Prop where
  | startLine : ¬ Coordinate.InRange f.startLine →
      Complains f (.outOfRange "Position.line" f.startLine)
  | startColumn : Coordinate.InRange f.startLine → ¬ Coordinate.InRange f.startColumn →
      Complains f (.outOfRange "Position.character" f.startColumn)
  | endLine : Coordinate.InRange f.startLine → Coordinate.InRange f.startColumn →
      ¬ Coordinate.InRange f.endLine → Complains f (.outOfRange "Position.line" f.endLine)
  | endColumn : Coordinate.InRange f.startLine → Coordinate.InRange f.startColumn →
      Coordinate.InRange f.endLine → ¬ Coordinate.InRange f.endColumn →
      Complains f (.outOfRange "Position.character" f.endColumn)
  | message : f.HasCoordinates → (∀ text, f.message ≠ .str text) → Complains f .wrongType

variable {f : Finding} {d : Diagnostic} {failure : Failure}

theorem ofFinding_cases (f : Finding) :
    (∃ d, ofFinding f = .ok d ∧ Shows f d) ∨
      ∃ failure, ofFinding f = .error failure ∧ Complains f failure := by
  have hrange {field : String} {value : Json} {c : Coordinate}
      (h : Coordinate.ofJson field value = .ok c) : Coordinate.InRange value :=
    (Coordinate.exists_ofJson_eq_iff field value).1 ⟨c, h⟩
  have hwrong {field : String} {value : Json} {failure : Failure}
      (h : Coordinate.ofJson field value = .error failure) :
      ¬ Coordinate.InRange value ∧ failure = .outOfRange field value :=
    (Coordinate.ofJson_eq_error_iff field value failure).1 h
  cases hsl : Coordinate.ofJson "Position.line" f.startLine with
  | error failure =>
    obtain ⟨hout, rfl⟩ := hwrong hsl
    exact .inr ⟨_, by simp [ofFinding, hsl, bind, Except.bind], .startLine hout⟩
  | ok startLine =>
  cases hsc : Coordinate.ofJson "Position.character" f.startColumn with
  | error failure =>
    obtain ⟨hout, rfl⟩ := hwrong hsc
    exact .inr ⟨_, by simp [ofFinding, hsl, hsc, bind, Except.bind],
      .startColumn (hrange hsl) hout⟩
  | ok startCharacter =>
  cases hel : Coordinate.ofJson "Position.line" f.endLine with
  | error failure =>
    obtain ⟨hout, rfl⟩ := hwrong hel
    exact .inr ⟨_, by simp [ofFinding, hsl, hsc, hel, bind, Except.bind],
      .endLine (hrange hsl) (hrange hsc) hout⟩
  | ok endLine =>
  cases hec : Coordinate.ofJson "Position.character" f.endColumn with
  | error failure =>
    obtain ⟨hout, rfl⟩ := hwrong hec
    exact .inr ⟨_, by simp [ofFinding, hsl, hsc, hel, hec, bind, Except.bind],
      .endColumn (hrange hsl) (hrange hsc) (hrange hel) hout⟩
  | ok endCharacter =>
  have hcoordinates : f.HasCoordinates := ⟨hrange hsl, hrange hsc, hrange hel, hrange hec⟩
  cases hmessage : f.message with
  | str message =>
    refine .inl ⟨⟨startLine, startCharacter, endLine, endCharacter, message,
      (Severity.ofJson f.severity).clientLevel, f.code⟩, ?_, ?_⟩
    · simp [ofFinding, hsl, hsc, hel, hec, hmessage, bind, Except.bind]
    · rw [Coordinate.ofJson_eq_ok_iff] at hsl hsc hel hec
      obtain ⟨hposition, htext, hlevel, hcode, hsource⟩ := get?_toJson _
      refine ⟨?_, ?_, ⟨rfl, hcode⟩, ⟨_, hlevel, Severity.ranks_number f.severity⟩, hsource⟩
      · simp only [hposition, positionJson, hsl, hsc, hel, hec]
      · rw [htext, hmessage]
  | _ =>
    refine .inr ⟨.wrongType, ?_, .message hcoordinates fun text h => ?_⟩
    · simp [ofFinding, hsl, hsc, hel, hec, hmessage, bind, Except.bind]
    · rw [hmessage] at h
      cases h

theorem ofFinding_eq_error_iff (f : Finding) (failure : Failure) :
    ofFinding f = .error failure ↔ Complains f failure := by
  constructor
  · intro h
    rcases ofFinding_cases f with ⟨d, hd, -⟩ | ⟨other, hother, hcomplains⟩
    · rw [h] at hd
      cases hd
    · rw [h] at hother
      cases hother
      exact hcomplains
  · intro h
    have hok {value : Json} (hin : Coordinate.InRange value) :
        ∃ c, ∀ field, Coordinate.ofJson field value = .ok c := by
      obtain ⟨c, hc⟩ := (Coordinate.exists_ofJson_eq_iff "" value).2 hin
      rw [Coordinate.ofJson_eq_ok_iff] at hc
      exact ⟨c, fun field => (Coordinate.ofJson_eq_ok_iff field value c).2 hc⟩
    have hwrong {field : String} {value : Json} (hout : ¬ Coordinate.InRange value) :
        Coordinate.ofJson field value = .error (.outOfRange field value) :=
      (Coordinate.ofJson_eq_error_iff field value _).2 ⟨hout, rfl⟩
    unfold ofFinding
    cases h with
    | startLine hout => simp [hwrong hout, bind, Except.bind]
    | startColumn hsl hout =>
      obtain ⟨_, hsl⟩ := hok hsl
      simp [hsl, hwrong hout, bind, Except.bind]
    | endLine hsl hsc hout =>
      obtain ⟨_, hsl⟩ := hok hsl
      obtain ⟨_, hsc⟩ := hok hsc
      simp [hsl, hsc, hwrong hout, bind, Except.bind]
    | endColumn hsl hsc hel hout =>
      obtain ⟨_, hsl⟩ := hok hsl
      obtain ⟨_, hsc⟩ := hok hsc
      obtain ⟨_, hel⟩ := hok hel
      simp [hsl, hsc, hel, hwrong hout, bind, Except.bind]
    | message hin hmessage =>
      obtain ⟨_, hsl⟩ := hok hin.start_line
      obtain ⟨_, hsc⟩ := hok hin.start_column
      obtain ⟨_, hel⟩ := hok hin.end_line
      obtain ⟨_, hec⟩ := hok hin.end_column
      simp [hsl, hsc, hel, hec, bind, Except.bind]

theorem shows_of_ofFinding (h : ofFinding f = .ok d) : Shows f d := by
  rcases ofFinding_cases f with ⟨other, hother, hshows⟩ | ⟨failure, hfailure, -⟩
  · rw [h] at hother
    cases hother
    exact hshows
  · rw [h] at hfailure
    cases hfailure

theorem forall₂_of_ofFindings {fs : List Finding} {ds : List Diagnostic}
    (h : ofFindings fs = .ok ds) : List.Forall₂ Shows fs ds :=
  ((mapM_eq_ok_iff fs ds).1 h).imp fun _ _ => shows_of_ofFinding

theorem ofFindings_eq_error_iff (fs : List Finding) (failure : Failure) :
    ofFindings fs = .error failure ↔
      ∃ f, IsFirst (fun f => ¬ f.IsPresentable) fs f ∧ Complains f failure := by
  have hbad : (fun f => ∃ failure, ofFinding f = .error failure) =
      fun f => ¬ Finding.IsPresentable f := by
    funext f
    rw [← exists_ofFinding_eq_iff]
    cases ofFinding f <;> simp
  rw [ofFindings, mapM_eq_error_iff, hbad]
  simp only [ofFinding_eq_error_iff]

end Diagnostic

namespace Session

def pairCheck (first second : Json) : Check :=
  ⟨"Wordy", "wordy", .str Severity.suggestion.name, fun file =>
    ⟨[first, second].map fun words =>
      offense "wordy" (.str Severity.suggestion.name) file words (0, 0) (0, 1), none⟩⟩

def pairRegistry (first second : Json) : Registry where
  table := ⟨[⟨"Wordy", some "wordy", none, [], some fun name severity file =>
    ⟨[first, second].map fun words => offense name severity file words (0, 0) (0, 1), none⟩, none⟩]⟩
  bindings := [("wordy", 0)]
  pluginsLoaded := false

def pairSession (first second : Json) : Session :=
  ⟨smallDisk, pairRegistry first second, some smallConfig⟩

theorem offenses_pair (first second : Json) :
    ((pairSession first second).offenses (Path.ofText "/p/a.liquid")).2.result =
      .ok ([first, second].map fun words => offense "wordy" (.str Severity.suggestion.name)
        ⟨Path.ofText "/p/a.liquid", ""⟩ words (0, 0) (0, 1)) := by
  have hcovers : smallConfig.Covers smallDisk (Path.ofText "/p/a.liquid") :=
    ⟨[("a.liquid" : WideText)], by decide, by decide, isThemeFile_smallDisk⟩
  have hmade : (pairRegistry first second).checksFor smallConfig.enabled =
      .ok [pairCheck first second] := rfl
  have hread := (Analysis.readTarget_eq_ok_iff smallDisk (Path.ofText "/p/a.liquid")
    ⟨Path.ofText "/p/a.liquid", ""⟩).2 ⟨rfl, textAt_smallDisk⟩
  have hall := (Analysis.findAll_eq_ok_iff ⟨Path.ofText "/p/a.liquid", ""⟩
    [pairCheck first second] _).2 ⟨List.forall_mem_singleton.2 rfl, rfl⟩
  rw [pairSession, offenses_result, configFor]
  refine (findingsUnder_of_covers (Disk.hasShortNames_ofDirectory isPlain_smallDisk)
    hasShortParts_smallRoot fits_smallDisk hmade hcovers).trans ?_
  simp only [hread, hall, Except.bind, Except.map]
  simp [Analysis.yielded, pairCheck, Analysis.concerns, offense]

end Session

end ThemeLint
