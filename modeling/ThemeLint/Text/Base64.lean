set_option autoImplicit false

namespace ThemeLint.Text.Base64

def digit? (c : Char) : Option Nat :=
  if 'A' ≤ c ∧ c ≤ 'Z' then some (c.toNat - 65)
  else if 'a' ≤ c ∧ c ≤ 'z' then some (c.toNat - 71)
  else if '0' ≤ c ∧ c ≤ '9' then some (c.toNat + 4)
  else if c = '+' then some 62
  else if c = '/' then some 63
  else none

/-- The bytes from inside a group on: `place` digits of it are read, `carry` are the bits of them
not yet used, `padding` the padding signs since the last digit. A group left open has no meaning. -/
def decodeFrom (place carry padding : Nat) : List Char → Option (List UInt8)
  | [] => if place = 0 then some [] else none
  | c :: cs =>
    if c = '=' then
      if 2 ≤ place then
        if 4 ≤ place + padding + 1 then some [] else decodeFrom place carry (padding + 1) cs
      else decodeFrom place carry padding cs
    else match digit? c with
      | none => decodeFrom place carry padding cs
      | some d =>
        match place with
        | 0 => decodeFrom 1 d 0 cs
        | 1 => (decodeFrom 2 (d % 16) 0 cs).map (UInt8.ofNat (carry * 4 + d / 16) :: ·)
        | 2 => (decodeFrom 3 (d % 4) 0 cs).map (UInt8.ofNat (carry * 16 + d / 4) :: ·)
        | _ => (decodeFrom 0 0 0 cs).map (UInt8.ofNat (carry * 64 + d) :: ·)

def decode? (s : List Char) : Option (List UInt8) := decodeFrom 0 0 0 s

end ThemeLint.Text.Base64
