import ThemeLint.Uri.Document
import ThemeLint.Proofs.Utf8
import Mathlib.Data.List.Basic
import Mathlib.Data.List.TakeWhile

/-!
Document URIs and the paths that they stand for. Whoever writes a URI may escape any characters of
the path; a few must be. However they choose, the same path is read back: as it is on the machine
itself, without the slash before a drive letter, and behind the host's name on another machine.
-/

set_option autoImplicit false

namespace ThemeLint.Uri

/-- A hexadecimal digit of a number below sixteen, in a letter of either case. -/
def IsHexOf (n : Nat) (c : Char) : Prop := c = Text.hexDigit n ∨ c = (Text.hexDigit n).toUpper

inductive Spells : List UInt8 → List Char → Prop where
  | nil : Spells [] []
  | cons {b : UInt8} {bs : List UInt8} {a z : Char} {s : List Char} :
      IsHexOf (b.toNat / 16) a → IsHexOf (b.toNat % 16) z → Spells bs s →
      Spells (b :: bs) ('%' :: a :: z :: s)

/-- What ends the path of a URI, or is dropped from it. -/
def cutters : List Char := ['?', '#', '\t', '\r', '\n']

def reserved : List Char := '%' :: cutters

/-- A text with some of its characters escaped, the reserved ones among them. -/
inductive Encodes : List Char → List Char → Prop where
  | nil : Encodes [] []
  | plain {c : Char} {s t : List Char} : c ∉ reserved → Encodes s t → Encodes (c :: s) (c :: t)
  | escaped {c : Char} {s t w : List Char} :
      Spells (String.utf8EncodeChar c) w → Encodes s t → Encodes (c :: s) (w ++ t)

theorem hexValue?_of_isHexOf {n : Nat} (hn : n < 16) {c : Char} (h : IsHexOf n c) :
    Text.hexValue? c = some n := by
  have hall : ∀ n : Fin 16, Text.hexValue? (Text.hexDigit n) = some n.val ∧
      Text.hexValue? (Text.hexDigit n).toUpper = some n.val := by decide
  rcases h with rfl | rfl
  · exact (hall ⟨n, hn⟩).1
  · exact (hall ⟨n, hn⟩).2

theorem unescape_spells {bs : List UInt8} {w : List Char} (h : Spells bs w) (more : List Char) :
    unescape (w ++ more) = bs ++ unescape more := by
  induction h with
  | nil => rfl
  | @cons b bs a z s ha hz _ ih =>
    have hb : b.toNat < 256 := b.toNat_lt
    have hx := hexValue?_of_isHexOf (by omega) ha
    have hy := hexValue?_of_isHexOf (by omega) hz
    have hbyte : UInt8.ofNat (16 * (b.toNat / 16) + b.toNat % 16) = b := by
      rw [Nat.div_add_mod, UInt8.ofNat_toNat]
    simp only [List.cons_append, unescape, hx, hy, ih, hbyte]

theorem isHexOf_harmless {n : Nat} (hn : n < 16) {c : Char} (h : IsHexOf n c) :
    isAscii c = true ∧ c ∉ cutters := by
  have hlower : ∀ n : Fin 16, isAscii (Text.hexDigit n) = true ∧ Text.hexDigit n ∉ cutters := by
    decide
  have hupper : ∀ n : Fin 16, isAscii (Text.hexDigit n).toUpper = true ∧
      (Text.hexDigit n).toUpper ∉ cutters := by decide
  rcases h with rfl | rfl
  · exact hlower ⟨n, hn⟩
  · exact hupper ⟨n, hn⟩

theorem Spells.harmless {bs : List UInt8} {w : List Char} (h : Spells bs w) :
    ∀ c ∈ w, isAscii c = true ∧ c ∉ cutters := by
  induction h with
  | nil => simp
  | @cons b bs a z s ha hz _ ih =>
    have hb : b.toNat < 256 := b.toNat_lt
    simp only [List.forall_mem_cons]
    exact ⟨by decide, isHexOf_harmless (by omega) ha, isHexOf_harmless (by omega) hz, ih⟩

theorem Encodes.notMem_cutters {s t : List Char} (h : Encodes s t) : ∀ c ∈ t, c ∉ cutters := by
  induction h with
  | nil => simp
  | plain hc _ ih =>
    rw [List.forall_mem_cons]
    exact ⟨fun hcut => hc (List.mem_cons_of_mem _ hcut), ih⟩
  | escaped hw _ ih =>
    intro c hc
    rcases List.mem_append.1 hc with hc | hc
    · exact (hw.harmless c hc).2
    · exact ih c hc

theorem decodeFrom_append {w : List Char} (h : ∀ c ∈ w, isAscii c = true) (run t : List Char) :
    decodeFrom run (w ++ t) = decodeFrom (w.reverse ++ run) t := by
  induction w generalizing run with
  | nil => rfl
  | cons c w ih =>
    rw [List.forall_mem_cons] at h
    rw [List.cons_append, decodeFrom, if_pos h.1, ih h.2, List.reverse_cons, List.append_assoc]
    rfl

theorem unescape_plain {c : Char} (hc : isAscii c = true) (hpercent : c ≠ '%') (more : List Char) :
    unescape (c :: more) = String.utf8EncodeChar c ++ unescape more := by
  have hv : c.toNat < 0x80 := by simpa [isAscii] using hc
  have hbytes : String.utf8EncodeChar c = [c.toNat.toUInt8] := by
    have hle : c.val.toNat ≤ 127 := Nat.le_of_lt_succ hv
    simp only [String.utf8EncodeChar, if_pos hle]
    rfl
  rw [hbytes, List.singleton_append, unescape]
  exact fun _ _ _ h _ => hpercent h

/-- A run of ASCII is complete when it spells whole characters. -/
def Holds (run done : List Char) : Prop :=
  ∀ more, unescape (run.reverse ++ more) = done.flatMap String.utf8EncodeChar ++ unescape more

theorem decodeRun_of_holds {run done : List Char} (h : Holds run done) :
    decodeRun run.reverse = done := by
  have hrun := h []
  rw [List.append_nil, unescape, List.append_nil] at hrun
  rw [decodeRun, hrun, Text.Utf8.decodeReplacing_flatMap_utf8EncodeChar]

theorem Holds.append {run done : List Char} (h : Holds run done) {w s : List Char}
    (hw : ∀ more, unescape (w ++ more) = s.flatMap String.utf8EncodeChar ++ unescape more) :
    Holds (w.reverse ++ run) (done ++ s) := by
  intro more
  rw [List.reverse_append, List.reverse_reverse, List.append_assoc, h, hw, List.flatMap_append,
    List.append_assoc]

theorem decodeFrom_encodes {s t : List Char} (h : Encodes s t) {run done : List Char}
    (hrun : Holds run done) : decodeFrom run t = done ++ s := by
  -- Over what is encoded. At every turn the run of ASCII read so far spells whole characters.
  induction h generalizing run done with
  | nil => rw [decodeFrom, decodeRun_of_holds hrun, List.append_nil]
  | @plain c s t hc _ ih =>
    rw [decodeFrom]
    split
    next hascii =>
      have hnext : Holds (c :: run) (done ++ [c]) := hrun.append (w := [c]) fun more => by
        rw [List.singleton_append, List.flatMap_singleton]
        exact unescape_plain hascii (by rintro rfl; exact hc (by decide)) more
      rw [ih hnext, List.append_assoc]
      rfl
    next =>
      have hnone : Holds [] [] := fun _ => rfl
      rw [decodeRun_of_holds hrun, ih hnone]
      rfl
  | @escaped c s t w hw _ ih =>
    have hnext : Holds (w.reverse ++ run) (done ++ [c]) := hrun.append fun more => by
      rw [List.flatMap_singleton]
      exact unescape_spells hw more
    rw [decodeFrom_append fun c hc => (hw.harmless c hc).1, ih hnext, List.append_assoc]
    rfl

theorem percentDecode_encodes {s t : List Char} (h : Encodes s t) : percentDecode t = s :=
  decodeFrom_encodes h (show Holds [] [] from fun _ => rfl)

/-- What a host is made of that can be told from what stands around it. -/
def IsHostChar (c : Char) : Prop := isAscii c = true ∧ c ∉ '/' :: '[' :: ']' :: cutters

/-- The machine that reads the URI: not named, or by a name for every machine. -/
def IsThisMachine (host : String) : Prop := host = "" ∨ host.toLower = "localhost"

/-- A drive letter and its colon, at the end or before a slash; the slash before them left out. -/
def HasDrive (rest : String) : Prop :=
  ∃ letter more, rest.toList = letter :: ':' :: more ∧ Text.isLetter letter = true ∧
    (more = [] ∨ more.head? = some '/')

theorem pathPart_of_no_cutters {t : List Char} (h : ∀ c ∈ t, c ∉ cutters) : pathPart t = t := by
  have hmark {sep : Char} (hsep : sep ∈ cutters) : splitFirst sep t = (t, none) := by
    have hall : t.takeWhile (· ≠ sep) = t := by
      refine List.takeWhile_eq_self_iff.2 fun c hc => decide_eq_true ?_
      rintro rfl
      exact h _ hc hsep
    simp only [splitFirst, hall, List.drop_length]
  rw [pathPart, hmark (by decide), hmark (by decide)]

theorem isIgnored_of_notMem_cutters {c : Char} (h : c ∉ cutters) : isIgnored c = false := by
  simp only [cutters, List.mem_cons, not_or] at h
  simp [isIgnored, h]

theorem IsHostChar.notMem_cutters {c : Char} (h : IsHostChar c) : c ∉ cutters :=
  fun hc => h.2 (by simp [hc])

theorem IsHostChar.endsHost_eq_false {c : Char} (h : IsHostChar c) : endsHost c = false := by
  have hc := h.2
  simp only [cutters, List.mem_cons, not_or] at hc
  simp [endsHost, hc]

theorem checkHost_of_isHostChar {host : List Char} (h : ∀ c ∈ host, IsHostChar c) :
    checkHost host = .ok () := by
  have hopen : host.contains '[' = false := by
    simpa using fun hc => (h _ hc).2 (by decide)
  have hclose : host.contains ']' = false := by
    simpa using fun hc => (h _ hc).2 (by decide)
  have hplain : host.any (Text.inRanges separatorLikeRanges) = false := by
    have hranges : ∀ r ∈ separatorLikeRanges, 0x80 ≤ r.1 := by decide
    rw [List.any_eq_false]
    intro c hc hin
    have hv : c.toNat < 0x80 := by simpa [isAscii] using (h c hc).1
    obtain ⟨r, hr, hlow, -⟩ := (Text.inRanges_iff _ _).1 hin
    have := hranges r hr
    omega
  simp only [checkHost, checkBrackets, hopen, hclose, hplain]
  rfl

theorem asciiLower_eq_toLower (c : Char) : asciiLower c = c.toLower := by
  have hcapital : ('A' ≤ c ∧ c ≤ 'Z') ↔ (c.val ≥ 'A'.val ∧ c.val ≤ 'Z'.val) := Iff.rfl
  unfold asciiLower Char.toLower
  by_cases h : 'A' ≤ c ∧ c ≤ 'Z'
  · rw [if_pos h, dif_pos (hcapital.1 h), ← Char.toNat_inj]
    have hlast : c.val.toNat ≤ 90 := h.2
    have hvalid : (c.toNat + 32).isValidChar := .inl (show c.val.toNat + 32 < 0xd800 by omega)
    have hsum : (c.val + ('a'.val - 'A'.val)).toNat = c.val.toNat + 32 := by
      rw [UInt32.toNat_add]
      exact Nat.mod_eq_of_lt (show c.val.toNat + 32 < 2 ^ 32 by omega)
    rw [Char.ofNat, dif_pos hvalid]
    exact hsum.symm
  · rw [if_neg h, dif_neg (mt hcapital.2 h)]

theorem isThisMachine_iff (host : String) :
    IsThisMachine host ↔ host.toList = [] ∨ isLocalhost host.toList = true := by
  have hmap : host.toList.map asciiLower = host.toLower.toList := by
    change _ = (host.map Char.toLower).toList
    rw [String.toList_map]
    exact List.map_congr_left fun c _ => asciiLower_eq_toLower c
  rw [IsThisMachine, isLocalhost, hmap, beq_iff_eq, String.toList_inj, String.toList_eq_nil_iff]

theorem isDrive_iff (rest : String) : isDrive ('/' :: rest.toList) = true ↔ HasDrive rest := by
  unfold HasDrive
  constructor
  · intro h
    unfold isDrive at h
    split at h
    next letter heq => exact ⟨letter, [], (List.cons.inj heq).2, h, .inl rfl⟩
    next letter more heq => exact ⟨letter, '/' :: more, (List.cons.inj heq).2, h, .inr rfl⟩
    next => cases h
  · intro h
    obtain ⟨letter, more, hrest, hletter, hmore⟩ := h
    rw [hrest]
    cases more with
    | nil => exact hletter
    | cons c more =>
      obtain rfl : c = '/' := by simpa using hmore
      exact hletter

theorem documentPath_eq {host rest code : String} (hhost : ∀ c ∈ host.toList, IsHostChar c)
    (hcode : Encodes rest.toList code.toList) :
    documentPath ("file://" ++ host ++ "/" ++ code) =
      .ok (String.ofList (hostedPath host.toList ('/' :: rest.toList))) := by
  have hpath : Encodes ('/' :: rest.toList) ('/' :: code.toList) := .plain (by decide) hcode
  have htext : ("file://" ++ host ++ "/" ++ code).toList =
      fileScheme ++ (host.toList ++ '/' :: code.toList) := by
    rw [String.toList_append, String.toList_append, String.toList_append, List.append_assoc,
      List.append_assoc]
    rfl
  have hall : ∀ c ∈ host.toList ++ '/' :: code.toList, c ∉ cutters := by
    intro c hc
    rcases List.mem_append.1 hc with hc | hc
    · exact (hhost c hc).notMem_cutters
    · exact hpath.notMem_cutters c hc
  have hkept : (host.toList ++ '/' :: code.toList).filter (!isIgnored ·) =
      host.toList ++ '/' :: code.toList := by
    refine List.filter_eq_self.2 fun c hc => ?_
    rw [isIgnored_of_notMem_cutters (hall c hc)]
    rfl
  have hends : (host.toList ++ '/' :: code.toList).takeWhile (!endsHost ·) = host.toList := by
    rw [List.takeWhile_append_of_pos, List.takeWhile_cons_of_neg, List.append_nil]
    · decide
    · intro c hc
      rw [(hhost c hc).endsHost_eq_false]
      rfl
  have hprefix : fileScheme.isPrefixOf (fileScheme ++ (host.toList ++ '/' :: code.toList)) = true :=
    List.isPrefixOf_iff_prefix.2 (List.prefix_append _ _)
  simp only [documentPath, htext, hprefix, List.drop_left, hkept, hends, checkHost_of_isHostChar hhost,
    pathPart_of_no_cutters hpath.notMem_cutters, percentDecode_encodes hpath]
  rfl

/-- However a path is written in a URI, the same path is read back. -/
theorem documentPath_encoded {host rest code : String} (hhost : ∀ c ∈ host.toList, IsHostChar c)
    (hcode : Encodes rest.toList code.toList) :
    let answer := documentPath ("file://" ++ host ++ "/" ++ code)
    (IsThisMachine host → HasDrive rest → answer = .ok rest) ∧
    (IsThisMachine host → ¬ HasDrive rest → answer = .ok ("/" ++ rest)) ∧
    (¬ IsThisMachine host → answer = .ok ("//" ++ host ++ "/" ++ rest)) ∧
    ∀ other : String, Encodes rest.toList other.toList →
      documentPath ("file://" ++ host ++ "/" ++ other) = answer := by
  intro answer
  have hanswer : answer = _ := documentPath_eq hhost hcode
  refine ⟨fun hhere hdrive => ?_, fun hhere hdrive => ?_, fun hhere => ?_, fun other hother => ?_⟩
  · rw [hanswer, hostedPath, if_pos ((isThisMachine_iff host).1 hhere),
      if_pos ((isDrive_iff rest).2 hdrive), List.drop_one, List.tail_cons, String.ofList_toList]
  · rw [hanswer, hostedPath, if_pos ((isThisMachine_iff host).1 hhere),
      if_neg (mt (isDrive_iff rest).1 hdrive), String.ofList_cons, String.ofList_toList]
    rfl
  · rw [hanswer, hostedPath, if_neg (mt (isThisMachine_iff host).2 hhere)]
    refine congrArg Except.ok (String.toList_inj.1 ?_)
    simp only [String.toList_ofList, String.toList_append, List.append_assoc, List.cons_append]
    rfl
  · rw [hanswer, documentPath_eq hhost hother]

theorem documentPath_of_escaped_drive :
    (∀ c ∈ "LocalHost".toList, IsHostChar c) ∧
    Encodes "c:/é%.liquid".toList "c%3A/%c3%A9%25.liquid".toList ∧
    documentPath "file://LocalHost/c%3A/%c3%A9%25.liquid" = .ok "c:/é%.liquid" := by
  have hhost : ∀ c ∈ "LocalHost".toList, IsHostChar c := by
    simp only [IsHostChar, ← List.forall_iff_forall_mem]
    decide
  have hend : Encodes ".liquid".toList ".liquid".toList := by
    repeat' first | exact .nil | refine .plain (by decide) ?_
  have hcode : Encodes "c:/é%.liquid".toList "c%3A/%c3%A9%25.liquid".toList := by
    refine .plain (by decide) ?_
    refine .escaped (w := ['%', '3', 'A']) (.cons (.inl rfl) (.inr rfl) .nil) ?_
    refine .plain (by decide) ?_
    refine .escaped (w := ['%', 'c', '3', '%', 'A', '9'])
      (.cons (.inl rfl) (.inl rfl) (.cons (.inr rfl) (.inl rfl) .nil)) ?_
    exact .escaped (w := ['%', '2', '5']) (.cons (.inl rfl) (.inl rfl) .nil) hend
  refine ⟨hhost, hcode, (documentPath_encoded hhost hcode).1 ?_ ?_⟩
  · exact (isThisMachine_iff _).2 (.inr (by decide))
  · exact ⟨'c', "/é%.liquid".toList, by decide, by decide, .inr (by decide)⟩

end ThemeLint.Uri
