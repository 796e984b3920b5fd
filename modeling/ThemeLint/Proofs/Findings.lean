import ThemeLint.Check
import ThemeLint.Proofs.Traversal

set_option autoImplicit false

namespace ThemeLint

/-- Numbers up to the limit, and truth values, which pass for numbers. -/
def Coordinate.InRange : Json → Prop
  | .bool _ => True
  | .int n => 0 ≤ n ∧ n ≤ coordinateLimit
  | _ => False

theorem Coordinate.exists_ofJson_eq_iff (field : String) (value : Json) :
    (∃ c, Coordinate.ofJson field value = .ok c) ↔ Coordinate.InRange value := by
  cases value with
  | int n =>
    simp only [ofJson, InRange]
    split_ifs with hlimit hsign
    · simp only [Except.ok.injEq, exists_eq', true_iff]
      omega
    · simp only [exists_false, false_iff]
      omega
    · simp only [exists_false, false_iff]
      omega
  | bool b => simp [ofJson, InRange]
  | _ => simp [ofJson, InRange]

namespace Finding

structure HasCoordinates (f : Finding) : Prop where
  start_line : Coordinate.InRange f.startLine
  start_column : Coordinate.InRange f.startColumn
  end_line : Coordinate.InRange f.endLine
  end_column : Coordinate.InRange f.endColumn

structure IsPresentable (f : Finding) : Prop extends HasCoordinates f where
  message_text : ∃ text, f.message = .str text

end Finding

theorem Coordinate.inRange_nat {n : Nat} (h : n ≤ coordinateLimit) : Coordinate.InRange (.int n) :=
  ⟨Int.natCast_nonneg n, Int.ofNat_le.2 h⟩

theorem hasCoordinates_offense (name : String) (severity : Json) (file : ThemeFile) (message : Json)
    {start stop : Nat × Nat} (hstart : start.1 ≤ coordinateLimit ∧ start.2 ≤ coordinateLimit)
    (hstop : stop.1 ≤ coordinateLimit ∧ stop.2 ≤ coordinateLimit) :
    (offense name severity file message start stop).HasCoordinates :=
  ⟨Coordinate.inRange_nat hstart.1, Coordinate.inRange_nat hstart.2,
    Coordinate.inRange_nat hstop.1, Coordinate.inRange_nat hstop.2⟩

theorem Diagnostic.exists_ofFinding_eq_iff (f : Finding) :
    (∃ d, Diagnostic.ofFinding f = .ok d) ↔ f.IsPresentable := by
  have hsl := Coordinate.exists_ofJson_eq_iff "Position.line" f.startLine
  have hsc := Coordinate.exists_ofJson_eq_iff "Position.character" f.startColumn
  have hel := Coordinate.exists_ofJson_eq_iff "Position.line" f.endLine
  have hec := Coordinate.exists_ofJson_eq_iff "Position.character" f.endColumn
  unfold Diagnostic.ofFinding
  constructor
  · intro h
    cases h1 : Coordinate.ofJson "Position.line" f.startLine with
    | error e => simp [h1, bind, Except.bind] at h
    | ok c1 =>
      cases h2 : Coordinate.ofJson "Position.character" f.startColumn with
      | error e => simp [h1, h2, bind, Except.bind] at h
      | ok c2 =>
        cases h3 : Coordinate.ofJson "Position.line" f.endLine with
        | error e => simp [h1, h2, h3, bind, Except.bind] at h
        | ok c3 =>
          cases h4 : Coordinate.ofJson "Position.character" f.endColumn with
          | error e => simp [h1, h2, h3, h4, bind, Except.bind] at h
          | ok c4 =>
            refine ⟨⟨hsl.1 ⟨c1, h1⟩, hsc.1 ⟨c2, h2⟩, hel.1 ⟨c3, h3⟩, hec.1 ⟨c4, h4⟩⟩, ?_⟩
            simp only [h1, h2, h3, h4, bind, Except.bind] at h
            split at h
            next text htext => exact ⟨text, htext⟩
            next => simp at h
  · intro h
    obtain ⟨⟨h1, h2, h3, h4⟩, text, htext⟩ := h
    obtain ⟨c1, h1⟩ := hsl.2 h1
    obtain ⟨c2, h2⟩ := hsc.2 h2
    obtain ⟨c3, h3⟩ := hel.2 h3
    obtain ⟨c4, h4⟩ := hec.2 h4
    simp [h1, h2, h3, h4, htext, bind, Except.bind]

theorem Diagnostic.exists_ofFindings_eq_iff (fs : List Finding) :
    (∃ ds, Diagnostic.ofFindings fs = .ok ds) ↔ ∀ f ∈ fs, f.IsPresentable := by
  unfold ofFindings
  rw [exists_mapM_eq_ok_iff]
  simp only [exists_ofFinding_eq_iff]

end ThemeLint
