/-!
Blank characters in the wide sense: what separates words or lines anywhere in Unicode 14, the
four separators of ASCII (U+001C to U+001F) among them. The zero-width space is none.
-/

set_option autoImplicit false

namespace ThemeLint.Text

def isBlank (c : Char) : Bool :=
  let n := c.toNat
  (0x9 ≤ n && n ≤ 0xd) || (0x1c ≤ n && n ≤ 0x20) || n == 0x85 || n == 0xa0 || n == 0x1680 ||
  (0x2000 ≤ n && n ≤ 0x200a) || n == 0x2028 || n == 0x2029 || n == 0x202f || n == 0x205f ||
  n == 0x3000

end ThemeLint.Text
