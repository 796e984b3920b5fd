import ThemeLint.Number.Double
import ThemeLint.Text.Blank
import ThemeLint.Text.Digit
import ThemeLint.Text.Wide

set_option autoImplicit false

namespace ThemeLint.Numeral

/-- A whole number is read and written with at most this many decimal digits. -/
def digitLimit : Nat := 4300

/-- What a code point counts as in a numeral: a digit of any script and a blank outside of ASCII as
those of ASCII, and whatever else is outside of ASCII as a sign that no numeral holds. -/
def plainSign : CodePoint → Char
  | .half _ => '?'
  | .char c =>
    if c.toNat < 0x7f then c
    else if Text.isBlank c then ' '
    else match Text.digitValue? c with
      | some n => Char.ofNat (48 + n)
      | none => '?'

def plainSigns (s : List CodePoint) : List Char := s.map plainSign

def isSpace (c : Char) : Bool := c == ' ' || ('\t' ≤ c && c ≤ '\r')

def trimSpaces (s : List Char) : List Char :=
  ((s.dropWhile isSpace).reverse.dropWhile isSpace).reverse

def splitSign : List Char → Bool × List Char
  | '+' :: s => (false, s)
  | '-' :: s => (true, s)
  | s => (false, s)

def digit? (base : Nat) (c : Char) : Option Nat :=
  match Text.hexValue? c with
  | some n => if n < base then some n else none
  | none => none

def isDigit (base : Nat) (c : Char) : Bool := (digit? base c).isSome

def valueOf (base : Nat) (digits : List Char) : Nat :=
  digits.foldl (fun n c => base * n + (digit? base c).getD 0) 0

def baseLetters : Nat → List Char
  | 2 => ['b', 'B']
  | 8 => ['o', 'O']
  | 16 => ['x', 'X']
  | _ => []

def dropBase (base : Nat) : List Char → List Char
  | '0' :: c :: s => if (baseLetters base).contains c then s else '0' :: c :: s
  | s => s

inductive Fault where
  | malformed
  | tooManyDigits (count : Nat)
  deriving DecidableEq, Repr

/-- A whole number. Its digits are counted before anything behind them is looked at. -/
def readWhole (base : Nat) (s : List CodePoint) : Except Fault Int :=
  let (negative, s) := splitSign ((plainSigns s).dropWhile isSpace)
  let s := dropBase base s
  let digits := s.takeWhile (isDigit base)
  if base = 10 ∧ digitLimit < digits.length then .error (.tooManyDigits digits.length)
  else if digits = [] ∨ !(s.drop digits.length).all isSpace then .error .malformed
  else .ok (Double.signed negative (valueOf base digits))

def asciiLower (c : Char) : Char :=
  if 'A' ≤ c ∧ c ≤ 'Z' then Char.ofNat (c.toNat + 32) else c

structure Decimal where
  whole : List Char
  fraction : List Char
  exponent : Int

def decimal? (s : List Char) : Option Decimal :=
  let whole := s.takeWhile (isDigit 10)
  let s := s.drop whole.length
  let fraction := match s with
    | '.' :: s => s.takeWhile (isDigit 10)
    | _ => []
  let s := match s with
    | '.' :: s => s.drop fraction.length
    | s => s
  if whole = [] ∧ fraction = [] then none
  else match s with
    | [] => some ⟨whole, fraction, 0⟩
    | e :: s =>
      if e = 'e' ∨ e = 'E' then
        let (negative, digits) := splitSign s
        if digits ≠ [] ∧ digits.all (isDigit 10) then
          some ⟨whole, fraction, Double.signed negative (valueOf 10 digits)⟩
        else none
      else none

def Decimal.value (d : Decimal) (negative : Bool) : Double :=
  Double.ofDecimal negative (valueOf 10 (d.whole ++ d.fraction)) (d.exponent - d.fraction.length)

def readDecimal (s : List CodePoint) : Option Double :=
  let (negative, s) := splitSign (trimSpaces (plainSigns s))
  let name := String.ofList (s.map asciiLower)
  if name = "inf" ∨ name = "infinity" then some (.infinite negative)
  else if name = "nan" then some .nan
  else (decimal? s).map (·.value negative)

end ThemeLint.Numeral
