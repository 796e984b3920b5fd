/-!
Texts in which half of a surrogate pair may stand on its own. Such a text is a list of code points.
Texts are equal point for point, so two halves are not the character that they stand for together;
only someone who is shown a text sees that character.
-/

set_option autoImplicit false

namespace ThemeLint

/-- A character, or half of a surrogate pair: those from U+D800 to U+DFFF by number. -/
inductive CodePoint where
  | char (c : Char)
  | half (n : Fin 0x800)
  deriving DecidableEq, Repr

namespace CodePoint

def toNat : CodePoint → Nat
  | char c => c.toNat
  | half n => 0xd800 + n.val

def char? : CodePoint → Option Char
  | char c => some c
  | half _ => none

def is (p : Char → Bool) (x : CodePoint) : Bool := x.char?.any p

theorem toNat_inj {x y : CodePoint} : x.toNat = y.toNat ↔ x = y := by
  have valid (c : Char) (n : Fin 0x800) : c.toNat ≠ 0xd800 + n.val := by
    have v := c.valid
    have e : c.val.toNat = c.toNat := rfl
    simp only [UInt32.isValidChar, Nat.isValidChar, e] at v
    omega
  refine ⟨fun h => ?_, fun h => h ▸ rfl⟩
  cases x with
  | char a =>
    cases y with
    | char b => rw [Char.toNat_inj.1 h]
    | half n => exact absurd h (valid a n)
  | half m =>
    cases y with
    | char b => exact absurd h.symm (valid b m)
    | half n =>
      simp only [toNat, Nat.add_left_cancel_iff] at h
      rw [Fin.ext h]

def firstSecond : Nat := 0x400

def joined? : CodePoint → CodePoint → Option Char
  | half a, half b =>
    if a.val < firstSecond ∧ firstSecond ≤ b.val then
      some (Char.ofNat (0x10000 + a.val * 0x400 + (b.val - firstSecond)))
    else none
  | _, _ => none

def shown : List CodePoint → List Char
  | [] => []
  | char c :: s => c :: shown s
  | [half _] => ['\uFFFD']
  | half a :: b :: s =>
    match joined? (half a) b with
    | some c => c :: shown s
    | none => '\uFFFD' :: shown (b :: s)

end CodePoint

structure WideText where
  points : List CodePoint
  deriving DecidableEq, Repr, Inhabited

namespace WideText

def ofString (s : String) : WideText := ⟨s.toList.map .char⟩

instance : Coe String WideText := ⟨ofString⟩

instance : Append WideText := ⟨fun a b => ⟨a.points ++ b.points⟩⟩

def shown (t : WideText) : String := String.ofList (CodePoint.shown t.points)

instance : ToString WideText := ⟨shown⟩

def plain? (t : WideText) : Option String := (t.points.mapM CodePoint.char?).map String.ofList

theorem plain?_ofString (s : String) : (ofString s).plain? = some s := by
  have h (cs : List Char) : (cs.map CodePoint.char).mapM CodePoint.char? = some cs := by
    induction cs with
    | nil => rfl
    | cons c cs ih => simp [CodePoint.char?, ih]
  simp [plain?, ofString, h]

theorem ofString_inj {s t : String} : ofString s = ofString t ↔ s = t := by
  refine ⟨fun h => ?_, fun h => h ▸ rfl⟩
  have := congrArg plain? h
  simpa [plain?_ofString] using this

def isEmpty (t : WideText) : Bool := t.points.isEmpty

instance : LT WideText := ⟨fun a b => a.points.map CodePoint.toNat < b.points.map CodePoint.toNat⟩

instance (a b : WideText) : Decidable (a < b) :=
  inferInstanceAs (Decidable (a.points.map CodePoint.toNat < b.points.map CodePoint.toNat))

end WideText

end ThemeLint
