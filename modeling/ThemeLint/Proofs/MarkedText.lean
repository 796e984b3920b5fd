import ThemeLint.Proofs.Diagnostics
import ThemeLint.Proofs.DocumentLines
import ThemeLint.Script

/-!
What a client marks for what a check found. Checks count the columns of a line in characters and
diagnostics repeat them, but a client counts in UTF-16 units, of which some characters take two. So
just what was found is marked where no character of the line up to its end takes two; elsewhere the
mark lies to the left of it.
-/

set_option autoImplicit false

namespace ThemeLint

namespace Text

/-- A character that takes two UTF-16 units. Any other takes one. -/
def IsWide (c : Char) : Prop := 0x10000 ≤ c.toNat

instance (c : Char) : Decidable (IsWide c) := inferInstanceAs (Decidable (_ ≤ _))

def width : List Char → Nat
  | [] => 0
  | c :: s => (if IsWide c then 2 else 1) + width s

def surplus (s : List Char) : Nat := s.countP (IsWide ·)

theorem width_append (s t : List Char) : width (s ++ t) = width s + width t := by
  induction s with
  | nil => rw [List.nil_append, width, Nat.zero_add]
  | cons c s ih => rw [List.cons_append, width, width, ih, Nat.add_assoc]

theorem width_eq (s : List Char) : width s = s.length + surplus s := by
  induction s with
  | nil => rfl
  | cons c s ih =>
    rw [width, ih]
    by_cases hc : IsWide c
    · simp [surplus, hc]
      omega
    · simp [surplus, hc]
      omega

theorem surplus_eq_zero_iff (s : List Char) : surplus s = 0 ↔ ∀ c ∈ s, ¬ IsWide c := by
  simp [surplus, List.countP_eq_zero]

/-- Where a client finds a column of a line, in units from the beginning of the document. A column
behind the end of the line stands for the end. -/
def placeOf? (ls : List Line) (line column : Nat) : Option Nat :=
  ls[line]?.map fun l => width ((ls.take line).flatMap Line.whole) + min column (width l.text)

def upTo (ls : List Line) (line : Nat) (before : List Char) : List Char :=
  (ls.take line).flatMap Line.whole ++ before

/-- A text stands in one of some lines, right behind what comes before it there. -/
def OccursIn (lines : List String) (line : Nat) (before found : List Char) : Prop :=
  ∃ after, lines[line]? = some (String.ofList (before ++ found ++ after))

section Places

variable {ls : List Line} {line : Nat} {l : Line} {before after : List Char}
  (hline : ls[line]? = some l) (htext : l.text = before ++ after)

include hline htext

theorem CutsInto.exists_eq_upTo {document : List Char} (h : CutsInto document ls) :
    ∃ back, document = upTo ls line before ++ after ++ back := by
  obtain ⟨hlt, hget⟩ := List.getElem?_eq_some_iff.1 hline
  refine ⟨l.ending ++ (ls.drop (line + 1)).flatMap Line.whole, ?_⟩
  have hsplit : ls = ls.take line ++ l :: ls.drop (line + 1) := by
    rw [← hget, List.getElem_cons_drop, List.take_append_drop]
  rw [← h.flatMap_whole, upTo]
  conv_lhs => rw [hsplit]
  simp [Line.whole, htext]

/-- The column that is the number of characters before a place leads to the left of it, by the
surplus of these characters. -/
theorem placeOf?_length_eq_some_iff (place : Nat) :
    placeOf? ls line before.length = some place ↔
      place + surplus before = width (upTo ls line before) := by
  have hmin : min before.length (width l.text) = before.length := by
    rw [htext, width_append, width_eq before]
    omega
  rw [placeOf?, hline, Option.map_some, hmin, Option.some.injEq, upTo, width_append, width_eq before]
  omega

end Places

end Text

def rangeJson (start stop : Nat × Nat) : Json :=
  .obj [("start", .obj [("line", .int start.1), ("character", .int start.2)]),
    ("end", .obj [("line", .int stop.1), ("character", .int stop.2)])]

theorem rangeJson_inj {start stop start' stop' : Nat × Nat} :
    rangeJson start stop = rangeJson start' stop' ↔ start = start' ∧ stop = stop' := by
  simp only [rangeJson, Json.obj.injEq, List.cons.injEq, Json.int.injEq, Prod.ext_iff,
    Int.natCast_inj]
  tauto

namespace Diagnostic

/-- A client marks what lies between the places of two positions, in units from the beginning of the
document. -/
inductive Marks (ls : List Text.Line) (d : Diagnostic) (start stop : Nat) : Prop where
  | range {first last : Nat × Nat} : d.toJson.get? "range" = some (rangeJson first last) →
      Text.placeOf? ls first.1 first.2 = some start →
      Text.placeOf? ls last.1 last.2 = some stop → Marks ls d start stop

theorem marks_iff {ls : List Text.Line} {d : Diagnostic} {first last : Nat × Nat}
    (h : d.toJson.get? "range" = some (rangeJson first last)) (start stop : Nat) :
    Marks ls d start stop ↔ Text.placeOf? ls first.1 first.2 = some start ∧
      Text.placeOf? ls last.1 last.2 = some stop := by
  constructor
  · intro hmarks
    obtain ⟨hrange, hstart, hstop⟩ := hmarks
    obtain ⟨rfl, rfl⟩ := rangeJson_inj.1 (Option.some.inj (h.symm.trans hrange))
    exact ⟨hstart, hstop⟩
  · intro hplaces
    exact .range h hplaces.1 hplaces.2

end Diagnostic

def reported (name : String) (severity : Json) (file : ThemeFile) (message : String) (line : Nat)
    (before found : List Char) : Finding :=
  offense name severity file (.str message) (line, before.length)
    (line, before.length + found.length)

/-- The mark for a text in a line begins too far left by the surplus of what comes before it, and
ends too far left by the surplus of both. -/
theorem Diagnostic.marks_reported_iff {f : Finding} {name message : String} {severity : Json}
    {file : ThemeFile} {line : Nat} {before found after : List Char}
    (hf : f = reported name severity file message line before found) {d : Diagnostic}
    (hd : Diagnostic.ofFinding f = .ok d) {ls : List Text.Line} {l : Text.Line}
    (hline : ls[line]? = some l) (htext : l.text = before ++ found ++ after) (start stop : Nat) :
    Marks ls d start stop ↔
      start + Text.surplus before = Text.width (Text.upTo ls line before) ∧
      stop + Text.surplus (before ++ found) = Text.width (Text.upTo ls line (before ++ found)) := by
  have hrange : d.toJson.get? "range" =
      some (rangeJson (line, before.length) (line, before.length + found.length)) := by
    rw [(shows_of_ofFinding hd).range, hf]
    rfl
  rw [marks_iff hrange, ← List.length_append, Text.placeOf?_length_eq_some_iff hline htext,
    Text.placeOf?_length_eq_some_iff hline (htext.trans (List.append_assoc _ _ _))]

theorem isPresentable_reported_iff (name : String) (severity : Json) (file : ThemeFile)
    (message : String) (line : Nat) (before found : List Char) :
    (reported name severity file message line before found).IsPresentable ↔
      line ≤ coordinateLimit ∧ before.length + found.length ≤ coordinateLimit := by
  constructor
  · intro h
    have hline : Coordinate.InRange (.int line) := h.start_line
    have hcolumn : Coordinate.InRange (.int (before.length + found.length : Nat)) := h.end_column
    exact ⟨Int.ofNat_le.1 hline.2, Int.ofNat_le.1 hcolumn.2⟩
  · rintro ⟨hline, hcolumn⟩
    have hbefore : before.length ≤ coordinateLimit := by omega
    exact ⟨hasCoordinates_offense name severity file (.str message) ⟨hline, hbefore⟩
      ⟨hline, hcolumn⟩, message, rfl⟩

namespace Analysis

section

variable {d : Disk} {r : Registry} {view : ThemeView} {enabled : List String} {checks : List Check}
  {path : Path} {file : ThemeFile}

theorem mem_run_of_mem_found (hfile : readTarget d path = .ok file) (hlisted : path ∈ view.files)
    (hchecks : r.checksFor enabled = .ok checks)
    (hpass : ∀ c ∈ checks, (c.analyse file).failure = none) {c : Check} (hc : c ∈ checks)
    {f : Finding} (hf : f ∈ (c.analyse file).found) (hconcerns : concerns path f = true) :
    ∃ findings, (run d r view enabled (.ok (.ofPath path))).result = .ok findings ∧
      f ∈ findings := by
  have hall : findAll file checks = .ok (yielded file checks) :=
    (findAll_eq_ok_iff _ _ _).2 ⟨hpass, rfl⟩
  refine ⟨(yielded file checks).filter (concerns path), ?_, ?_⟩
  · rw [run_result d r view enabled checks hchecks, Target.path_ofPath, if_pos hlisted, hfile]
    simp only [Except.bind, hall]
    rfl
  · exact List.mem_filter.2 ⟨List.mem_flatMap.2 ⟨c, hc, hf⟩, hconcerns⟩

end

theorem exists_line_of_occursIn {d : Disk} {path : Path} {document : List Char} {file : ThemeFile}
    (hbytes : d.bytesAt path = .ok (document.flatMap String.utf8EncodeChar))
    (hfile : readTarget d path = .ok file) {line : Nat} {before found : List Char}
    (hoccurs : Text.OccursIn file.lines line before found) {ls : List Text.Line}
    (hls : Text.CutsInto document ls) :
    ∃ l after, ls[line]? = some l ∧ l.text = before ++ found ++ after := by
  obtain ⟨after, hafter⟩ := hoccurs
  rw [lines_of_readTarget hbytes hfile hls, List.getElem?_map, Option.map_eq_some_iff] at hafter
  obtain ⟨l, hl, htext⟩ := hafter
  exact ⟨l, after, hl, String.ofList_injective htext⟩

/-- A text that a check finds in a line, and reports by its columns in characters, has its finding and,
as far as a client takes its numbers, its diagnostic. What a client marks in the document begins and
ends as many units too far left as there are wide characters in the line up to there. So the text
itself is marked if and only if neither in it nor before it in its line there is any. -/
theorem marks_of_reported {d : Disk} {r : Registry} {view : ThemeView} {enabled : List String}
    {checks : List Check} {path : Path} {document : List Char} {file : ThemeFile}
    (hbytes : d.bytesAt path = .ok (document.flatMap String.utf8EncodeChar))
    (hfile : readTarget d path = .ok file) (hlisted : path ∈ view.files)
    (hchecks : r.checksFor enabled = .ok checks)
    (hpass : ∀ c ∈ checks, (c.analyse file).failure = none) {line : Nat} {before found : List Char}
    (hoccurs : Text.OccursIn file.lines line before found) {c : Check} (hc : c ∈ checks)
    {name message : String} {severity : Json}
    (hreported : reported name severity file message line before found ∈ (c.analyse file).found) :
    let f := reported name severity file message line before found
    ∃ findings, (run d r view enabled (.ok (.ofPath path))).result = .ok findings ∧ f ∈ findings ∧
      ((∃ dg, Diagnostic.ofFinding f = .ok dg) ↔
        line ≤ coordinateLimit ∧ before.length + found.length ≤ coordinateLimit) ∧
      (∀ ds, Diagnostic.ofFindings findings = .ok ds → ∃ dg ∈ ds, Diagnostic.ofFinding f = .ok dg) ∧
      ∀ dg ls, Diagnostic.ofFinding f = .ok dg → Text.CutsInto document ls →
        (∃ back, document = Text.upTo ls line before ++ found ++ back) ∧
        (∀ start stop, dg.Marks ls start stop ↔
          start + Text.surplus before = Text.width (Text.upTo ls line before) ∧
          stop + Text.surplus (before ++ found) = Text.width (Text.upTo ls line (before ++ found))) ∧
        (dg.Marks ls (Text.width (Text.upTo ls line before))
            (Text.width (Text.upTo ls line (before ++ found))) ↔
          ∀ ch ∈ before ++ found, ¬ Text.IsWide ch) := by
  intro f
  have hpath : file.path = path := ((readTarget_eq_ok_iff d path file).1 hfile).1
  have hconcerns : concerns path f = true := by simp [concerns, f, reported, offense, hpath]
  obtain ⟨findings, hrun, hmem⟩ :=
    mem_run_of_mem_found hfile hlisted hchecks hpass hc hreported hconcerns
  refine ⟨findings, hrun, hmem, ?_, fun ds hds => exists_of_mapM_eq_ok hds hmem,
    fun dg ls hdg hls => ?_⟩
  · rw [Diagnostic.exists_ofFinding_eq_iff]
    exact isPresentable_reported_iff name severity file message line before found
  · obtain ⟨l, after, hl, htext⟩ := exists_line_of_occursIn hbytes hfile hoccurs hls
    have hmarks := Diagnostic.marks_reported_iff rfl hdg hl htext
    obtain ⟨back, hback⟩ := hls.exists_eq_upTo hl (htext.trans (List.append_assoc _ _ _))
    refine ⟨⟨after ++ back, by rw [hback]; simp⟩, hmarks, ?_⟩
    rw [hmarks, ← Text.surplus_eq_zero_iff, Text.surplus, Text.surplus, List.countP_append]
    omega

section Finder

def finderScript : Script := [.find "x" (.str "found")]

def finder : Check :=
  ⟨"Finder", "finder", .str Severity.suggestion.name,
    finderScript.run "finder" (.str Severity.suggestion.name)⟩

def finderRegistry : Registry where
  table := ⟨[⟨"Finder", some "finder", none, [], some finderScript.run, none⟩]⟩
  bindings := [("finder", 0)]
  pluginsLoaded := false

def loneView : ThemeView := ⟨⟨.root, ["p"]⟩, [lonePath]⟩

theorem checksFor_finder : finderRegistry.checksFor ["finder"] = .ok [finder] := by
  have hmake : finderRegistry.make "finder" = .ok finder := by
    simp [Registry.make, Registry.find?, finderRegistry, ClassTable.make, ClassTable.inherited,
      ClassTable.get?, ClassTable.nameOf, ClassTable.severityOf, ClassTable.titleOf, finder]
  simp [Registry.checksFor, hmake]

variable {c : Char} (hbare : Text.IsBare [c, 'x']) (hc : c ≠ 'x')

include hbare

theorem cutsInto_lone : Text.CutsInto [c, 'x'] [⟨[c, 'x'], []⟩] := .last hbare

theorem lines_lone {file : ThemeFile} (hfile : readTarget (loneDisk [c, 'x']) lonePath = .ok file) :
    file.lines = [String.ofList [c, 'x']] :=
  lines_of_readTarget (bytesAt_loneDisk _) hfile (cutsInto_lone hbare)

theorem occursIn_lone {file : ThemeFile} (hfile : readTarget (loneDisk [c, 'x']) lonePath = .ok file) :
    Text.OccursIn file.lines 0 [c] ['x'] :=
  ⟨[], by rw [lines_lone hbare hfile]; rfl⟩

include hc

theorem analyse_finder {file : ThemeFile}
    (hfile : readTarget (loneDisk [c, 'x']) lonePath = .ok file) :
    finder.analyse file = ⟨[reported finder.name finder.severity file "found" 0 [c] ['x']], none⟩ := by
  have hplace : Action.placeOf? ['x'] [c, 'x'] = some 1 := by
    have hfirst : ['x'].isPrefixOf [c, 'x'] = false := by simp [List.isPrefixOf, Ne.symm hc]
    rw [Action.placeOf?, hfirst]
    rfl
  have hhits : Action.hits "x" file.lines = [(0, 1)] := by
    simp [Action.hits, lines_lone hbare hfile, hplace]
  have hlength : "x".length = 1 := by decide
  simp [finder, finderScript, Script.run, Action.run, hhits, hlength, reported]

theorem finder_passes {file : ThemeFile}
    (hfile : readTarget (loneDisk [c, 'x']) lonePath = .ok file) :
    ∀ check ∈ [finder], (check.analyse file).failure = none :=
  List.forall_mem_singleton.2 (congrArg CheckRun.failure (analyse_finder hbare hc hfile))

theorem reported_mem_found {file : ThemeFile}
    (hfile : readTarget (loneDisk [c, 'x']) lonePath = .ok file) :
    reported finder.name finder.severity file "found" 0 [c] ['x'] ∈ (finder.analyse file).found := by
  rw [analyse_finder hbare hc hfile]
  exact List.mem_cons_self

theorem run_finder {file : ThemeFile}
    (hfile : readTarget (loneDisk [c, 'x']) lonePath = .ok file) :
    (run (loneDisk [c, 'x']) finderRegistry loneView ["finder"] (.ok (.ofPath lonePath))).result =
      .ok [reported finder.name finder.severity file "found" 0 [c] ['x']] := by
  have hanalyse := analyse_finder hbare hc hfile
  have hall := (findAll_eq_ok_iff file [finder] _).2 ⟨finder_passes hbare hc hfile, rfl⟩
  have hpath : file.path = lonePath := ((readTarget_eq_ok_iff _ _ _).1 hfile).1
  have hlisted : lonePath ∈ loneView.files := List.mem_singleton.2 rfl
  rw [run_result _ _ _ _ _ checksFor_finder, Target.path_ofPath, if_pos hlisted, hfile]
  simp [Except.bind, hall, Except.map, yielded, hanalyse, concerns, reported, offense, hpath]

omit hbare hc in
theorem marks_of_narrow :
    ∃ findings f dg, (run (loneDisk ['a', 'x']) finderRegistry loneView ["finder"]
        (.ok (.ofPath lonePath))).result = .ok findings ∧ f ∈ findings ∧
      Diagnostic.ofFinding f = .ok dg ∧ dg.Marks [⟨['a', 'x'], []⟩] 1 2 := by
  have hbare : Text.IsBare ['a', 'x'] := by decide
  have hfile := readTarget_of_document (bytesAt_loneDisk ['a', 'x'])
  have hne : 'a' ≠ 'x' := by decide
  have hlisted : lonePath ∈ loneView.files := List.mem_singleton.2 rfl
  obtain ⟨findings, hrun, hmem, htaken, -, hmarks⟩ := marks_of_reported (bytesAt_loneDisk _) hfile
    hlisted checksFor_finder (finder_passes hbare hne hfile) (occursIn_lone hbare hfile)
    List.mem_cons_self (reported_mem_found hbare hne hfile)
  obtain ⟨dg, hdg⟩ := htaken.2 (by decide)
  obtain ⟨-, -, hexact⟩ := hmarks dg _ hdg (cutsInto_lone hbare)
  have hnarrow : ∀ c ∈ ['a'] ++ ['x'], ¬ Text.IsWide c :=
    List.forall_mem_cons.2 ⟨by decide, List.forall_mem_singleton.2 (by decide)⟩
  exact ⟨findings, _, dg, hrun, hmem, hdg, hexact.2 hnarrow⟩

/-- What a check finds in a file with some text is what a client marks, whatever stands before it. -/
def MarksWhatIsFound (document found : List Char) : Prop :=
  '\r' ∉ document → found ≠ [] →
  ∀ (d : Disk) (r : Registry) (view : ThemeView) (enabled : List String) (checks : List Check)
    (path : Path) (file : ThemeFile) (line : Nat) (before : List Char) (check : Check)
    (message : String),
    d.bytesAt path = .ok (document.flatMap String.utf8EncodeChar) →
    readTarget d path = .ok file → path ∈ view.files → r.checksFor enabled = .ok checks →
    (∀ check ∈ checks, (check.analyse file).failure = none) →
    Text.OccursIn file.lines line before found → check ∈ checks →
    reported check.name check.severity file message line before found ∈ (check.analyse file).found →
    ∀ findings ds, (run d r view enabled (.ok (.ofPath path))).result = .ok findings →
      Diagnostic.ofFindings findings = .ok ds →
      ∃ dg ∈ ds, Diagnostic.ofFinding (reported check.name check.severity file message line before
          found) = .ok dg ∧
        ∀ ls, Text.CutsInto document ls → dg.Marks ls (Text.width (Text.upTo ls line before))
          (Text.width (Text.upTo ls line (before ++ found)))

omit hbare hc in
theorem not_marksWhatIsFound : ¬ MarksWhatIsFound ['𐀀', 'x'] ['x'] := by
  intro h
  have hbare : Text.IsBare ['𐀀', 'x'] := by decide
  have hfile := readTarget_of_document (bytesAt_loneDisk ['𐀀', 'x'])
  have hne : '𐀀' ≠ 'x' := by decide
  have hlisted : lonePath ∈ loneView.files := List.mem_singleton.2 rfl
  obtain ⟨ds, hds⟩ := (Diagnostic.exists_ofFindings_eq_iff _).2 (List.forall_mem_singleton.2
    ((isPresentable_reported_iff finder.name finder.severity _ "found" 0 ['𐀀'] ['x']).2 (by decide)))
  obtain ⟨dg, -, hdg, hmarks⟩ := h (by decide) (by decide) _ _ _ _ _ _ _ 0 ['𐀀'] finder "found"
    (bytesAt_loneDisk _) hfile hlisted checksFor_finder (finder_passes hbare hne hfile)
    (occursIn_lone hbare hfile) List.mem_cons_self (reported_mem_found hbare hne hfile) _ ds
    (run_finder hbare hne hfile) hds
  have htext : (⟨['𐀀', 'x'], []⟩ : Text.Line).text = ['𐀀'] ++ ['x'] ++ [] := rfl
  have hmarked := (Diagnostic.marks_reported_iff rfl hdg rfl htext _ _).1
    (hmarks _ (cutsInto_lone hbare))
  exact absurd hmarked.1 (by decide)

end Finder

end Analysis

end ThemeLint
