import ThemeLint.Proofs.Analysis
import ThemeLint.Proofs.Utf8
import ThemeLint.Proofs.Walk

/-!
The lines of a document as a client counts them, and those that checks are given. A client ends a
line at CR LF, at LF and at CR, and nowhere else. A file is read with LF in the place of each of
these, so that the pieces between LF are the lines of the client.
-/

set_option autoImplicit false

namespace ThemeLint

namespace Text

/-- What ends a line, told by what comes behind it: CR does so alone only where no LF follows. -/
inductive EndsLine : (ending rest : List Char) → Prop where
  | crlf (rest : List Char) : EndsLine ['\r', '\n'] rest
  | lf (rest : List Char) : EndsLine ['\n'] rest
  | cr {rest : List Char} : rest.head? ≠ some '\n' → EndsLine ['\r'] rest

/-- A line of a document with what ends it, which for the last line is nothing. -/
structure Line where
  text : List Char
  ending : List Char
  deriving DecidableEq, Repr

def Line.whole (l : Line) : List Char := l.text ++ l.ending

def IsBare (s : List Char) : Prop := '\r' ∉ s ∧ '\n' ∉ s

instance (s : List Char) : Decidable (IsBare s) := inferInstanceAs (Decidable (_ ∧ _))

inductive CutsInto : List Char → List Line → Prop where
  | last {text : List Char} : IsBare text → CutsInto text [⟨text, []⟩]
  | more {text ending rest : List Char} {ls : List Line} : IsBare text → EndsLine ending rest →
      CutsInto rest ls → CutsInto (text ++ ending ++ rest) (⟨text, ending⟩ :: ls)

theorem unifyLineEnds_cons_of_ne {c : Char} (h : c ≠ '\r') (s : List Char) :
    unifyLineEnds (c :: s) = c :: unifyLineEnds s := by
  rw [unifyLineEnds, if_neg h]
  exact fun _ heq => absurd heq h

theorem unifyLineEnds_append {text : List Char} (h : '\r' ∉ text) (s : List Char) :
    unifyLineEnds (text ++ s) = text ++ unifyLineEnds s := by
  induction text with
  | nil => rfl
  | cons c text ih =>
    rw [List.mem_cons, not_or] at h
    rw [List.cons_append, unifyLineEnds_cons_of_ne (Ne.symm h.1), ih h.2, List.cons_append]

theorem EndsLine.unifyLineEnds_append {ending rest : List Char} (h : EndsLine ending rest) :
    unifyLineEnds (ending ++ rest) = '\n' :: unifyLineEnds rest := by
  cases h with
  | crlf => rw [List.cons_append, List.singleton_append, unifyLineEnds]
  | lf => exact unifyLineEnds_cons_of_ne (by decide) rest
  | cr hrest =>
    rw [List.singleton_append, unifyLineEnds, if_pos rfl]
    rintro s - rfl
    exact hrest rfl

/-- However a document is cut, its lines are what checks are given. -/
theorem CutsInto.pieces_unifyLineEnds {document : List Char} {ls : List Line}
    (h : CutsInto document ls) : pieces '\n' (unifyLineEnds document) = ls.map Line.text := by
  induction h with
  | @last text hbare =>
    have hall : unifyLineEnds text = text := by
      simpa [unifyLineEnds] using unifyLineEnds_append hbare.1 []
    rw [hall, pieces_of_notMem hbare.2, List.map_singleton]
  | more hbare hends _ ih =>
    rw [List.append_assoc, unifyLineEnds_append hbare.1, hends.unifyLineEnds_append,
      pieces_append_cons, pieces_of_notMem hbare.2, ih, List.singleton_append, List.map_cons]

theorem CutsInto.flatMap_whole {document : List Char} {ls : List Line} (h : CutsInto document ls) :
    ls.flatMap Line.whole = document := by
  induction h with
  | last => simp [Line.whole]
  | more _ _ _ ih => rw [List.flatMap_cons, ih, Line.whole]

theorem CutsInto.isBare {document : List Char} {ls : List Line} (h : CutsInto document ls) :
    ∀ l ∈ ls, IsBare l.text := by
  induction h with
  | last hbare => exact List.forall_mem_singleton.2 hbare
  | more hbare _ _ ih => exact List.forall_mem_cons.2 ⟨hbare, ih⟩

theorem CutsInto.cons {document : List Char} {ls : List Line} (h : CutsInto document ls) {c : Char}
    (hcr : c ≠ '\r') (hlf : c ≠ '\n') : ∃ ls, CutsInto (c :: document) ls := by
  have hlonger {text : List Char} (hbare : IsBare text) : IsBare (c :: text) := by
    simpa [IsBare, hcr.symm, hlf.symm] using hbare
  cases h with
  | last hbare => exact ⟨_, .last (hlonger hbare)⟩
  | more hbare hends hrest => exact ⟨_, .more (hlonger hbare) hends hrest⟩

theorem exists_cutsInto (document : List Char) : ∃ ls, CutsInto document ls := by
  have hempty : IsBare [] := ⟨List.not_mem_nil, List.not_mem_nil⟩
  induction document using unifyLineEnds.induct with
  | case1 => exact ⟨_, .last hempty⟩
  | case2 rest ih =>
    obtain ⟨ls, hls⟩ := ih
    exact ⟨_, .more hempty (.crlf rest) hls⟩
  | case3 c rest hnext ih =>
    obtain ⟨ls, hls⟩ := ih
    by_cases hcr : c = '\r'
    · subst hcr
      -- An LF behind the CR would have been taken with it.
      have hrest : rest.head? ≠ some '\n' := by
        intro hhead
        obtain ⟨s, rfl⟩ := List.head?_eq_some_iff.1 hhead
        exact hnext s rfl rfl
      exact ⟨_, .more hempty (.cr hrest) hls⟩
    by_cases hlf : c = '\n'
    · subst hlf
      exact ⟨_, .more hempty (.lf rest) hls⟩
    exact hls.cons hcr hlf

theorem CutsInto.getLast?_of_ends {document : List Char} {ls : List Line}
    (h : CutsInto document ls) (hends : ∃ c ∈ document.getLast?, c = '\r' ∨ c = '\n') :
    ls.getLast? = some ⟨[], []⟩ := by
  obtain ⟨c, hlast, hc⟩ := hends
  induction h with
  | last hbare =>
    have hmem := List.mem_of_getLast? hlast
    rcases hc with rfl | rfl
    · exact absurd hmem hbare.1
    · exact absurd hmem hbare.2
  | @more text ending rest ls hbare _ hrest ih =>
    have hsome : ls ≠ [] := by
      rintro rfl
      cases hrest
    rw [List.getLast?_cons_of_ne_nil hsome]
    by_cases hempty : rest = []
    · subst hempty
      obtain ⟨l, rfl, htext⟩ := List.map_eq_singleton_iff.1 hrest.pieces_unifyLineEnds.symm
      have hending := hrest.flatMap_whole
      rw [List.flatMap_singleton, Line.whole, htext, List.nil_append] at hending
      obtain ⟨lineText, lineEnding⟩ := l
      obtain rfl : lineText = [] := htext
      obtain rfl : lineEnding = [] := hending
      rfl
    · rw [List.getLast?_append_of_ne_nil _ hempty] at hlast
      exact ih hlast

end Text

namespace Analysis

section

variable {d : Disk} {path : Path} {document : List Char}
  (hbytes : d.bytesAt path = .ok (document.flatMap String.utf8EncodeChar))

include hbytes

theorem readTarget_of_document :
    readTarget d path = .ok ⟨path, String.ofList (Text.unifyLineEnds document)⟩ := by
  rw [readTarget_eq_ok_iff]
  refine ⟨rfl, ?_⟩
  simp only [Disk.textAt, hbytes, Text.Utf8.decode_flatMap_utf8EncodeChar]

theorem lines_of_readTarget {file : ThemeFile} (hfile : readTarget d path = .ok file)
    {ls : List Text.Line} (hls : Text.CutsInto document ls) :
    file.lines = ls.map fun l => String.ofList l.text := by
  obtain rfl := Except.ok.inj ((readTarget_of_document hbytes).symm.trans hfile)
  rw [ThemeFile.lines, Text.lines, String.toList_ofList, hls.pieces_unifyLineEnds, List.map_map]
  rfl

/-- A file in UTF-8 is given to the checks in the lines that a client cuts it into, with nothing lost
but the way in which they end. -/
theorem lines_of_document :
    ∃ file, readTarget d path = .ok file ∧ file.path = path ∧
      (∃ ls, Text.CutsInto document ls) ∧
      (∀ ls, Text.CutsInto document ls → file.lines = ls.map fun l => String.ofList l.text) ∧
      ((∃ c ∈ document.getLast?, c = '\r' ∨ c = '\n') → file.lines.getLast? = some "") ∧
      "\n".intercalate file.lines = file.source ∧
      (∀ line ∈ file.lines, Text.IsBare line.toList) ∧
      ∀ (view : ThemeView) (checks : List Check), path ∈ view.files →
        (inspect d view checks path).result =
          (findAll file checks).map (·.filter (concerns path)) := by
  have hfile := readTarget_of_document hbytes
  obtain ⟨ls, hls⟩ := Text.exists_cutsInto document
  have hlines := lines_of_readTarget hbytes hfile hls
  refine ⟨_, hfile, rfl, ⟨ls, hls⟩, fun ls hls => lines_of_readTarget hbytes hfile hls,
    fun hends => ?_, ?_, fun line hline => ?_, fun view checks hlisted => ?_⟩
  · rw [hlines, List.getLast?_map, hls.getLast?_of_ends hends]
    rfl
  · have hback : (fun cs : List Char => (String.ofList cs).toList) = id :=
      funext fun cs => String.toList_ofList
    refine String.toList_injective ?_
    rw [String.toList_intercalate, ThemeFile.lines, Text.lines, List.map_map, Function.comp_def,
      hback, List.map_id]
    exact (Text.joinPieces_eq_intercalate '\n' _).symm.trans (Text.joinPieces_pieces '\n' _)
  · rw [hlines] at hline
    obtain ⟨l, hl, rfl⟩ := List.mem_map.1 hline
    rw [String.toList_ofList]
    exact hls.isBare l hl
  · rw [inspect_result, if_pos hlisted, hfile]
    rfl

end

def loneDisk (document : List Char) : Disk :=
  Disk.ofDirectory "p" [("a.liquid", .file (document.flatMap String.utf8EncodeChar))]

def lonePath : Path := ⟨.root, ["p", "a.liquid"]⟩

theorem bytesAt_loneDisk (document : List Char) :
    (loneDisk document).bytesAt lonePath = .ok (document.flatMap String.utf8EncodeChar) := by
  have hnames : ∀ n ∈ [("p" : WideText), "a.liquid"], isName n = true ∧ nameSize n ≤ nameLimit := by
    decide
  have hplain : Disk.IsPlain "p" [("a.liquid", .file (document.flatMap String.utf8EncodeChar))] :=
    ⟨hnames, by simp, List.forall_mem_singleton.2 rfl⟩
  exact Disk.bytesAt_ofDirectory hplain 0 rfl (by decide) (by decide)
    (Disk.get?_ofDirectory_of_mem hplain List.mem_cons_self)

def mixedEnds : List Char := ['a', '\r', '\r', '\n', '\n', 'b', '\r']

theorem lines_of_mixedEnds :
    (loneDisk mixedEnds).bytesAt lonePath = .ok (mixedEnds.flatMap String.utf8EncodeChar) ∧
    ∃ file, readTarget (loneDisk mixedEnds) lonePath = .ok file ∧
      file.lines = ["a", "", "", "b", ""] := by
  have hcut : Text.CutsInto mixedEnds
      [⟨['a'], ['\r']⟩, ⟨[], ['\r', '\n']⟩, ⟨[], ['\n']⟩, ⟨['b'], ['\r']⟩, ⟨[], []⟩] := by
    have hlast : Text.CutsInto [] [⟨[], []⟩] := .last (by decide)
    have hb := @Text.CutsInto.more ['b'] ['\r'] [] _ (by decide) (.cr (by decide)) hlast
    have hlf := @Text.CutsInto.more [] ['\n'] _ _ (by decide) (.lf _) hb
    have hcrlf := @Text.CutsInto.more [] ['\r', '\n'] _ _ (by decide) (.crlf _) hlf
    exact @Text.CutsInto.more ['a'] ['\r'] _ _ (by decide) (.cr (by decide)) hcrlf
  obtain ⟨file, hfile, -, -, hlines, -⟩ := lines_of_document (bytesAt_loneDisk mixedEnds)
  exact ⟨bytesAt_loneDisk mixedEnds, file, hfile, hlines _ hcut⟩

end Analysis

end ThemeLint
