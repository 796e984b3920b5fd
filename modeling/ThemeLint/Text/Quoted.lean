import ThemeLint.Text.Digit
import ThemeLint.Text.Printable
import ThemeLint.Text.Wide

set_option autoImplicit false

namespace ThemeLint.Text.Quoted

/-- The quote that needs the fewest escapes, the single one when in doubt. -/
def mark (s : List CodePoint) : Char :=
  if .char '\x27' ∈ s ∧ .char '\x22' ∉ s then '\x22' else '\x27'

def escaped (n : Nat) : List Char :=
  if n < 0x100 then '\\' :: 'x' :: hexDigits 2 n
  else if n < 0x10000 then '\\' :: 'u' :: hexDigits 4 n
  else '\\' :: 'U' :: hexDigits 8 n

def escape (quote : Char) : CodePoint → List Char
  | .half n => escaped (CodePoint.half n).toNat
  | .char c =>
    if c = quote ∨ c = '\\' then ['\\', c]
    else if c = '\n' then ['\\', 'n']
    else if c = '\r' then ['\\', 'r']
    else if c = '\t' then ['\\', 't']
    else if isPrintable c then [c]
    else escaped c.toNat

def encode (s : List CodePoint) : List Char :=
  mark s :: s.flatMap (escape (mark s)) ++ [mark s]

def encodeBytes (bytes : List UInt8) : List Char :=
  let s := bytes.map fun b => CodePoint.char (Char.ofNat b.toNat)
  let byte (x : CodePoint) : List Char := if x.toNat < 0x80 then escape (mark s) x else escaped x.toNat
  'b' :: mark s :: s.flatMap byte ++ [mark s]

end Quoted

def quoted (t : WideText) : String := String.ofList (Quoted.encode t.points)

end ThemeLint.Text
