set_option autoImplicit false

namespace ThemeLint

inductive Double where
  | nan
  | infinite (negative : Bool)
  | finite (negative : Bool) (mantissa : Nat) (exponent : Int)
  deriving DecidableEq, Repr

namespace Double

/-- Finite doubles are the multiples of `2 ^ leastExponent` that their precision allows. -/
def leastExponent : Int := -1074

def precision : Nat := 53

def exponentLimit : Int := 972

def zero : Double := .finite false 0 leastExponent

def scale (num den : Nat) (e : Int) : Nat × Nat :=
  (num * Nat.pow 2 e.toNat, den * Nat.pow 2 (-e).toNat)

/-- The exponent of the largest power of two that is no greater than a positive fraction. -/
def binaryExponent (num den : Nat) : Int :=
  let guess : Int := (num.log2 : Int) - den.log2
  let (n, d) := scale num den (-guess)
  if d ≤ n then guess else guess - 1

def roundDiv (num den : Nat) : Nat :=
  let whole := num / den
  let rest := 2 * (num % den)
  if rest < den ∨ (rest = den ∧ whole % 2 = 0) then whole else whole + 1

def ofRatio (negative : Bool) (num den : Nat) : Double :=
  if num = 0 ∨ den = 0 then .finite negative 0 leastExponent
  else
    let q := max (binaryExponent num den - (precision - 1)) leastExponent
    let (n, d) := scale num den (-q)
    let m := roundDiv n d
    let (m, q) := if m = Nat.pow 2 precision then (Nat.pow 2 (precision - 1), q + 1) else (m, q)
    if exponentLimit ≤ q then .infinite negative else .finite negative m q

def ofNat (n : Nat) : Double := ofRatio false n 1

def ofDyadic (negative : Bool) (mantissa : Nat) (exponent : Int) : Double :=
  let (n, d) := scale mantissa 1 exponent
  ofRatio negative n d

def countDigits (n : Nat) : Nat := (Nat.toDigits 10 n).length

/-- Beyond this power of ten every double is infinite, and below its inverse every one is zero. -/
def decimalLimit : Int := 400

def ofDecimal (negative : Bool) (digits : Nat) (exponent : Int) : Double :=
  if digits = 0 then .finite negative 0 leastExponent
  else
    let size := (countDigits digits : Int) + exponent
    if decimalLimit < size then .infinite negative
    else if size < -decimalLimit then .finite negative 0 leastExponent
    else ofRatio negative (digits * Nat.pow 10 exponent.toNat) (Nat.pow 10 (-exponent).toNat)

def isNegative : Double → Bool
  | .nan => false
  | .infinite negative | .finite negative _ _ => negative

def isZero : Double → Bool
  | .finite _ m _ => m == 0
  | _ => false

def negate : Double → Double
  | .nan => .nan
  | .infinite negative => .infinite !negative
  | .finite negative m q => .finite (!negative) m q

def mul : Double → Double → Double
  | .nan, _ | _, .nan => .nan
  | .infinite s, y => if y.isZero then .nan else .infinite (s != y.isNegative)
  | x, .infinite s => if x.isZero then .nan else .infinite (s != x.isNegative)
  | .finite s m q, .finite s' m' q' => ofDyadic (s != s') (m * m') (q + q')

def signed (negative : Bool) (n : Nat) : Int := if negative then -n else n

def add : Double → Double → Double
  | .nan, _ | _, .nan => .nan
  | .infinite s, .infinite s' => if s = s' then .infinite s else .nan
  | .infinite s, _ | _, .infinite s => .infinite s
  | .finite s m q, .finite s' m' q' =>
    let least := min q q'
    let sum := signed s (m * Nat.pow 2 (q - least).toNat) +
      signed s' (m' * Nat.pow 2 (q' - least).toNat)
    if sum = 0 then .finite (s && s') 0 leastExponent
    else ofDyadic (sum < 0) sum.natAbs least

/-- Equality as numbers: the two zeros are one, and not-a-number is taken for itself. -/
def same (x y : Double) : Bool := x = y || (x.isZero && y.isZero)

def toInt? : Double → Option Int
  | .finite s m q =>
    let (n, d) := scale m 1 q
    if n % d = 0 then some (signed s (n / d)) else none
  | _ => none

end Double

end ThemeLint
