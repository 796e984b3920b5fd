import ThemeLint.Text.Utf8
import Mathlib.Tactic.Common

set_option autoImplicit false

namespace ThemeLint.Text.Utf8

def tail (bits : Nat) : UInt8 := UInt8.ofNat (bits % 64 + 128)

theorem toNat_tail (bits : Nat) : (tail bits).toNat = bits % 64 + 128 := by
  have h : bits % 64 + 128 < 256 := by omega
  simp [tail, Nat.mod_eq_of_lt h]

theorem start_ofNat (n : Nat) (h : n < 256) :
    start (UInt8.ofNat n) =
      if n < 0x80 then .char (Char.ofNat n)
      else if n < 0xc2 then .bad
      else if n < 0xe0 then .lead ⟨n - 0xc0, 1, 0x80, 0xbf, UInt8.ofNat n, 1⟩
      else if n < 0xf0 then .lead ⟨n - 0xe0, 2, if n = 0xe0 then 0xa0 else 0x80,
        if n = 0xed then 0x9f else 0xbf, UInt8.ofNat n, 1⟩
      else if n < 0xf5 then .lead ⟨n - 0xf0, 3, if n = 0xf0 then 0x90 else 0x80,
        if n = 0xf4 then 0x8f else 0xbf, UInt8.ofNat n, 1⟩
      else .bad := by
  have hn : (UInt8.ofNat n).toNat = n := by simp [Nat.mod_eq_of_lt h]
  simp only [start, UInt8.lt_iff_toNat_lt, ← UInt8.toNat_inj, hn]
  rfl

section Tail

variable (position value : Nat) {missing : Nat} {low high : UInt8} (first : UInt8) (read bits : Nat)
  (rest : List UInt8) (hlow : low.toNat ≤ bits % 64 + 128) (hhigh : bits % 64 + 128 ≤ high.toNat)

include hlow hhigh

theorem tail_mem_range : low ≤ tail bits ∧ tail bits ≤ high := by
  simp only [UInt8.le_iff_toNat_le, toNat_tail]
  exact ⟨hlow, hhigh⟩

theorem piecesFrom_more (hmissing : 1 < missing) :
    piecesFrom position (some ⟨value, missing, low, high, first, read⟩) (tail bits :: rest) =
      piecesFrom (position + 1)
        (some ⟨value * 64 + bits % 64, missing - 1, 0x80, 0xbf, first, read + 1⟩) rest := by
  simp only [piecesFrom, if_pos (tail_mem_range bits hlow hhigh), toNat_tail, Nat.add_sub_cancel]
  rw [if_neg (by omega)]

theorem piecesFrom_last :
    piecesFrom position (some ⟨value, 1, low, high, first, read⟩) (tail bits :: rest) =
      .char (Char.ofNat (value * 64 + bits % 64)) :: piecesFrom (position + 1) none rest := by
  simp only [piecesFrom, if_pos (tail_mem_range bits hlow hhigh), toNat_tail, Nat.add_sub_cancel]
  rw [if_pos (by omega)]

end Tail

theorem piecesFrom_lead (position : Nat) {b : UInt8} {p : Unfinished} (h : start b = .lead p)
    (rest : List UInt8) :
    piecesFrom position none (b :: rest) = piecesFrom (position + 1) (some p) rest := by
  rw [piecesFrom, h]

section Forms

variable (position : Nat) {v : Nat} (rest : List UInt8)

theorem piecesFrom_one (h : v ≤ 0x7f) :
    piecesFrom position none (UInt8.ofNat v :: rest) =
      .char (Char.ofNat v) :: piecesFrom (position + 1) none rest := by
  have hstart := start_ofNat v (by omega)
  rw [if_pos (by omega)] at hstart
  rw [piecesFrom, hstart]

theorem piecesFrom_two (h : 0x7f < v ∧ v ≤ 0x7ff) :
    piecesFrom position none (UInt8.ofNat (v / 64 % 32 + 192) :: tail v :: rest) =
      .char (Char.ofNat v) :: piecesFrom (position + 2) none rest := by
  have hstart := start_ofNat (v / 64 % 32 + 192) (by omega)
  rw [if_neg (by omega), if_neg (by omega), if_pos (by omega)] at hstart
  have hvalue : (v / 64 % 32 + 192 - 0xc0) * 64 + v % 64 = v := by omega
  rw [piecesFrom_lead position hstart, piecesFrom_last _ _ _ _ v _ (by simp) (by simp; omega), hvalue]

/-- The range of the second byte shuts out shorter forms and halves of surrogate pairs. -/
theorem piecesFrom_three (h : 0x7ff < v ∧ v ≤ 0xffff) (hvalid : v < 0xd800 ∨ 0xdfff < v) :
    piecesFrom position none
        (UInt8.ofNat (v / 4096 % 16 + 224) :: tail (v / 64) :: tail v :: rest) =
      .char (Char.ofNat v) :: piecesFrom (position + 3) none rest := by
  have hstart := start_ofNat (v / 4096 % 16 + 224) (by omega)
  rw [if_neg (by omega), if_neg (by omega), if_neg (by omega), if_pos (by omega)] at hstart
  have hvalue : ((v / 4096 % 16 + 224 - 0xe0) * 64 + v / 64 % 64) * 64 + v % 64 = v := by omega
  have hlow : (if v / 4096 % 16 + 224 = 0xe0 then (0xa0 : UInt8) else 0x80).toNat ≤
      v / 64 % 64 + 128 := by
    split
    · simp; omega
    · simp
  have hhigh : v / 64 % 64 + 128 ≤
      (if v / 4096 % 16 + 224 = 0xed then (0x9f : UInt8) else 0xbf).toNat := by
    split <;> simp <;> omega
  rw [piecesFrom_lead position hstart, piecesFrom_more _ _ _ _ (v / 64) _ hlow hhigh (by simp),
    piecesFrom_last _ _ _ _ v _ (by simp) (by simp; omega), hvalue]

/-- The range of the second byte shuts out shorter forms and what lies beyond all characters. -/
theorem piecesFrom_four (h : 0xffff < v ∧ v < 0x110000) :
    piecesFrom position none
        (UInt8.ofNat (v / 262144 % 8 + 240) :: tail (v / 4096) :: tail (v / 64) :: tail v :: rest) =
      .char (Char.ofNat v) :: piecesFrom (position + 4) none rest := by
  have hstart := start_ofNat (v / 262144 % 8 + 240) (by omega)
  rw [if_neg (by omega), if_neg (by omega), if_neg (by omega), if_neg (by omega),
    if_pos (by omega)] at hstart
  have hvalue : (((v / 262144 % 8 + 240 - 0xf0) * 64 + v / 4096 % 64) * 64 + v / 64 % 64) * 64 +
      v % 64 = v := by omega
  have hlow : (if v / 262144 % 8 + 240 = 0xf0 then (0x90 : UInt8) else 0x80).toNat ≤
      v / 4096 % 64 + 128 := by
    split
    · simp; omega
    · simp
  have hhigh : v / 4096 % 64 + 128 ≤
      (if v / 262144 % 8 + 240 = 0xf4 then (0x8f : UInt8) else 0xbf).toNat := by
    split <;> simp <;> omega
  rw [piecesFrom_lead position hstart, piecesFrom_more _ _ _ _ (v / 4096) _ hlow hhigh (by simp),
    piecesFrom_more _ _ _ _ (v / 64) _ (by simp) (by simp; omega) (by simp),
    piecesFrom_last _ _ _ _ v _ (by simp) (by simp; omega), hvalue]

end Forms

/-- A character is read off its bytes, wherever they stand. -/
theorem piecesFrom_utf8EncodeChar (position : Nat) (c : Char) (rest : List UInt8) :
    piecesFrom position none (String.utf8EncodeChar c ++ rest) =
      .char c :: piecesFrom (position + (String.utf8EncodeChar c).length) none rest := by
  obtain ⟨v, hv⟩ : ∃ v, c.val.toNat = v := ⟨_, rfl⟩
  have hc : Char.ofNat v = c := by rw [← hv]; exact Char.ofNat_toNat c
  have hvalid : v < 0xd800 ∨ 0xdfff < v ∧ v < 0x110000 := hv ▸ c.valid
  -- By the number of bytes that the character takes.
  by_cases h1 : v ≤ 0x7f
  · have hbytes : String.utf8EncodeChar c = [UInt8.ofNat v] := by
      simp [String.utf8EncodeChar, hv, h1]
    rw [hbytes, ← hc]
    exact piecesFrom_one position rest h1
  by_cases h2 : v ≤ 0x7ff
  · have hbytes : String.utf8EncodeChar c = [UInt8.ofNat (v / 64 % 32 + 192), tail v] := by
      simp [String.utf8EncodeChar, hv, h1, h2, tail]
    rw [hbytes, ← hc]
    exact piecesFrom_two position rest ⟨by omega, h2⟩
  by_cases h3 : v ≤ 0xffff
  · have hbytes : String.utf8EncodeChar c =
        [UInt8.ofNat (v / 4096 % 16 + 224), tail (v / 64), tail v] := by
      simp [String.utf8EncodeChar, hv, h1, h2, h3, tail]
    rw [hbytes, ← hc]
    exact piecesFrom_three position rest ⟨by omega, h3⟩ (by omega)
  · have hbytes : String.utf8EncodeChar c =
        [UInt8.ofNat (v / 262144 % 8 + 240), tail (v / 4096), tail (v / 64), tail v] := by
      simp [String.utf8EncodeChar, hv, h1, h2, h3, tail]
    rw [hbytes, ← hc]
    exact piecesFrom_four position rest ⟨by omega, by omega⟩

theorem pieces_flatMap_utf8EncodeChar (cs : List Char) :
    pieces (cs.flatMap String.utf8EncodeChar) = cs.map .char := by
  -- For every position, since what follows a character starts behind its bytes.
  suffices h : ∀ position, piecesFrom position none (cs.flatMap String.utf8EncodeChar) =
      cs.map .char from h 0
  induction cs with
  | nil => intro position; rfl
  | cons c cs ih =>
    intro position
    rw [List.flatMap_cons, piecesFrom_utf8EncodeChar, ih, List.map_cons]

theorem decode_flatMap_utf8EncodeChar (cs : List Char) :
    decode (cs.flatMap String.utf8EncodeChar) = .ok cs := by
  rw [decode, pieces_flatMap_utf8EncodeChar]
  induction cs with
  | nil => rfl
  | cons c cs ih => rw [List.map_cons, strict, ih, Except.map]

theorem decodeReplacing_flatMap_utf8EncodeChar (cs : List Char) :
    decodeReplacing (cs.flatMap String.utf8EncodeChar) = cs := by
  rw [decodeReplacing, pieces_flatMap_utf8EncodeChar, List.map_map]
  exact List.map_id cs

end ThemeLint.Text.Utf8
