import ThemeLint.Number.Double

/-!
The shortest decimal that reads back as a given double, and its text. A double is read back from
every number nearer to it than to its neighbours; of the decimals there with the fewest digits the
nearest to it is taken.
-/

set_option autoImplicit false

namespace ThemeLint.Double

/-- A double and the numbers that read back as it, all over one denominator. -/
structure Interval where
  value : Nat
  low : Nat
  high : Nat
  denominator : Nat
  closed : Bool
  deriving DecidableEq, Repr

/-- The interval of a positive double in units of `10 ^ e`. Below a power of two the neighbour is
only half as far as above it. -/
def interval (m : Nat) (q e : Int) : Interval :=
  let up := Nat.pow 2 (q - 2).toNat * Nat.pow 10 (-e).toNat
  let below := if m = Nat.pow 2 (precision - 1) ∧ leastExponent < q then 1 else 2
  { value := 4 * m * up
    low := (4 * m - below) * up
    high := (4 * m + 2) * up
    denominator := Nat.pow 2 (2 - q).toNat * Nat.pow 10 e.toNat
    closed := m % 2 = 0 }

def Interval.contains (i : Interval) (n : Nat) : Bool :=
  if i.closed then i.low ≤ n * i.denominator && n * i.denominator ≤ i.high
  else i.low < n * i.denominator && n * i.denominator < i.high

def Interval.pick? (i : Interval) : Option Nat :=
  let n := i.value / i.denominator
  let below := i.value - n * i.denominator
  let above := (n + 1) * i.denominator - i.value
  let first := if below < above ∨ (below = above ∧ n % 2 = 0) then n else n + 1
  let second := if first = n then n + 1 else n
  if i.contains first then some first
  else if i.contains second then some second
  else none

def decimalExponent (m : Nat) (q : Int) : Int :=
  let guess := ((m.log2 : Int) + q) * 30103 / 100000
  let atLeast (e : Int) : Bool :=
    Nat.pow 2 (-q).toNat * Nat.pow 10 e.toNat ≤ m * Nat.pow 2 q.toNat * Nat.pow 10 (-e).toNat
  if atLeast (guess + 1) then guess + 1 else if atLeast guess then guess else guess - 1

/-- The grids from `digits` digits on, coarse to fine, until one has a point that reads back. -/
def shortestFrom (m : Nat) (q top : Int) : (grids : Nat) → (digits : Nat) → Nat × Int
  | 0, digits => (((interval m q (top - digits + 1)).pick?).getD 0, top - digits + 1)
  | grids + 1, digits =>
    let e := top - digits + 1
    match (interval m q e).pick? with
    | some n => (n, e)
    | none => shortestFrom m q top grids (digits + 1)

def dropZeros (n : Nat) (e : Int) : Nat × Int :=
  if n = 0 then (0, e)
  else if n % 10 = 0 then dropZeros (n / 10) (e + 1)
  else (n, e)

def shortest (m : Nat) (q : Int) : Nat × Int :=
  let (n, e) := shortestFrom m q (decimalExponent m q) 16 1
  dropZeros n e

structure DecimalStyle where
  /-- Positional notation ends where the point would stand more than this many digits to the right. -/
  wholeDigits : Int
  /-- Positional notation ends where more than this many zeros would follow the point. -/
  leadingZeros : Int
  exponentDigits : Nat

/-- Up to sixteen digits before the point and three zeros behind it; an exponent has two digits. -/
def keyStyle : DecimalStyle := ⟨16, 3, 2⟩

def zeros (n : Nat) : List Char := List.replicate n '0'

def exponentText (style : DecimalStyle) (e : Int) : List Char :=
  let digits := Nat.toDigits 10 e.natAbs
  'e' :: (if e < 0 then '-' else '+') :: zeros (style.exponentDigits - digits.length) ++ digits

/-- The digits with their point, which stands `point` digits to the right of the first. -/
def placePoint (style : DecimalStyle) (digits : List Char) (point : Int) : List Char :=
  if style.wholeDigits < point ∨ point < -style.leadingZeros then
    match digits with
    | [d] => d :: exponentText style (point - 1)
    | d :: ds => d :: '.' :: ds ++ exponentText style (point - 1)
    | [] => []
  else if point ≤ 0 then '0' :: '.' :: zeros (-point).toNat ++ digits
  else if digits.length ≤ point.toNat then
    digits ++ zeros (point.toNat - digits.length) ++ ['.', '0']
  else digits.take point.toNat ++ '.' :: digits.drop point.toNat

def text : Double → String
  | .nan => "nan"
  | .infinite negative => if negative then "-inf" else "inf"
  | .finite negative m q =>
    let number :=
      if m = 0 then ['0', '.', '0']
      else
        let (n, e) := shortest m q
        let digits := Nat.toDigits 10 n
        placePoint keyStyle digits (digits.length + e)
    String.ofList (if negative then '-' :: number else number)

end ThemeLint.Double
