import ThemeLint.Text.Digit
import ThemeLint.Text.Utf8

/-!
Percent decoding. A percent sign and two hexadecimal digits stand for a byte; the bytes of a run of
ASCII are read as UTF-8, faults becoming U+FFFD. Characters outside ASCII stand for themselves and
end a run, so a byte before one never joins a byte after it.
-/

set_option autoImplicit false

namespace ThemeLint.Uri

def isAscii (c : Char) : Bool := c.toNat < 0x80

def unescape : List Char → List UInt8
  | [] => []
  | '%' :: a :: b :: cs =>
    match Text.hexValue? a, Text.hexValue? b with
    | some x, some y => UInt8.ofNat (16 * x + y) :: unescape cs
    | _, _ => '%'.toNat.toUInt8 :: unescape (a :: b :: cs)
  | c :: cs => c.toNat.toUInt8 :: unescape cs

def decodeRun (run : List Char) : List Char := Text.Utf8.decodeReplacing (unescape run)

/-- A text decoded run by run; `run` is what has been read of the present one, in reverse. -/
def decodeFrom (run : List Char) : List Char → List Char
  | [] => decodeRun run.reverse
  | c :: cs =>
    if isAscii c then decodeFrom (c :: run) cs
    else decodeRun run.reverse ++ c :: decodeFrom [] cs

def percentDecode (s : List Char) : List Char := decodeFrom [] s

end ThemeLint.Uri
